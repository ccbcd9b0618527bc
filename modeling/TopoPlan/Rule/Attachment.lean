import TopoPlan.Network.Stage
import TopoPlan.Rule.Generator
import TopoPlan.Rule.Source

/-!
# Attachment of records

An attach rule gives its rows, as records, to every object that requests it.  The
rows of a source are the same for all objects; a generator makes those of each
object from the network.
-/

namespace TopoPlan.Attaching

/-- The objects that may have records, in the order in which they get them. -/
def owners (network : Network) : List Scope :=
  network.nodeIds.map Scope.node ++
    network.nodeIds.flatMap (fun id => (network.node id).interfaces.map Scope.interface) ++
    network.connectionIds.map Scope.connection ++ network.groupIds.map Scope.group ++
    network.segmentIds.map Scope.segment

/-- Give an object the records of rows, numbered from zero. -/
def attach (rule : String) (network : Network) (owner : Scope) (rows : List Row) : Network :=
  rows.zipIdx.foldl
    (fun (current : Network) entry =>
      current.addAttachment
        { rule, owner, index := entry.2, parameters := { own := entry.1 } })
    network

/-- The rows that a rule gives to an object, with derived fields. -/
def rowsFor (config : Config) (generators : Generators) (sourceRows : Table (List Row))
    (network : Network) (rule : ParameterRule) (owner : Scope) :
    Except CompileError (List Row) :=
  match rule.generatorName? with
  | some name =>
    (generators.rows name config network owner).map fun rows =>
      rows.map (Row.derive rule.formats)
  | none => .ok (sourceRows.getD rule.name [])

/-- Give the records of one rule. -/
def attachRule (config : Config) (generators : Generators) (sourceRows : Table (List Row))
    (rule : ParameterRule) : Stage Unit := do
  let network <- get
  let requesting := (owners network).filter fun owner =>
    (network.parametersOf owner).hasFlag rule.name
  let records <- Stage.ofExcept (requesting.mapM fun owner => do
    let rows <- rowsFor config generators sourceRows network rule owner
    pure (owner, rows))
  set (records.foldl
    (fun (current : Network) entry => attach rule.name current entry.1 entry.2) network)

/-- Give the records of all rules.  Every source is read first. -/
def attachAll (config : Config) (files : TextFiles) (generators : Generators) : Stage Unit := do
  let sourceRows <- Stage.ofExcept (Source.allRows config files)
  (config.rules.filter (·.attaches)).forM (attachRule config generators sourceRows)

end TopoPlan.Attaching
