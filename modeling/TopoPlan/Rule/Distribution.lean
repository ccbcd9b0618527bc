import TopoPlan.Network.Description
import TopoPlan.Network.Stage
import TopoPlan.Rule.Candidate

/-!
# Distribution of candidates

A plain rule gives its candidates to the objects that request it.  Nodes,
connections, groups and segments get one each, in the order of their keys.
Interfaces may share one: those of one connection, or those of one segment.
-/

namespace TopoPlan.Distribution

/-- The objects of a list that request rules, by the name of the rule. -/
def requests (network : Network) (scopes : List Scope) : Table (List Scope) :=
  scopes.foldl
    (fun (found : Table (List Scope)) scope =>
      (network.parametersOf scope).flags.toList.foldl
        (fun (found : Table (List Scope)) name => Table.push found name scope) found)
    {}

/-- The rule that objects request. -/
def requestedRule (config : Config) (network : Network) (name : String) (objects : List Scope) :
    Except CompileError ParameterRule :=
  match config.rule? name with
  | some rule => .ok rule
  | none => .error (.unknownRule name (network.describe (objects.headD .network)))

/-- Objects in the order of their keys; objects with one key stay as they are. -/
def inKeyOrder (network : Network) (objects : List Scope) : List Scope :=
  let keyed := objects.map fun object => (network.sortKey object, object)
  (keyed.mergeSort fun left right => decide (left.1 <= right.1)).map (·.2)

/-- The objects of a list, each alone. -/
def alone (objects : List Scope) : List (List Scope) := objects.map fun object => [object]

/-- Give all objects of each group the candidate of the group. -/
def giveAll (name : String) (network : Network) (groups : List (List Scope × String)) :
    Network :=
  groups.foldl
    (fun (current : Network) entry =>
      entry.1.foldl
        (fun (current : Network) scope => current.updateParameters scope (·.set name entry.2))
        current)
    network

/-- Forms the groups of objects that share a candidate of a rule. -/
abbrev Grouping := Network -> ParameterRule -> List Scope -> Except CompileError (List (List Scope))

/-- Every object is a group, in the order of the keys. -/
def eachAlone : Grouping := fun network _ objects => .ok (alone (inKeyOrder network objects))

/-- Distribute the candidates of one rule. -/
def distributeRule (config : Config) (files : TextFiles) (grouping : Grouping) (name : String)
    (objects : List Scope) : Stage Unit := do
  let network <- get
  let rule <- Stage.ofExcept (requestedRule config network name objects)
  if rule.attaches then pure ()
  else
    let groups <- Stage.ofExcept (grouping network rule objects)
    let candidates <- Stage.ofExcept (Candidate.values config files rule groups.length)
    set (giveAll name network (groups.zip candidates))

/-- Distribute the candidates of all rules that objects of a list request, in the
order of the names of the rules. -/
def distribute (config : Config) (files : TextFiles) (grouping : Grouping)
    (scopes : List Scope) : Stage Unit := do
  (requests (<- get) scopes).toList.forM fun entry =>
    distributeRule config files grouping entry.1 entry.2

/-- The ends of a connection that are among the given objects. -/
def endsAmong (network : Network) (objects : List Scope) (id : ConnectionId) : List Scope :=
  let connection := network.connection id
  [Scope.interface connection.source, Scope.interface connection.target].filter objects.contains

/-- The layer by whose segments a rule is shared. -/
def sharingLayer (config : Config) (rule : ParameterRule) : Except CompileError String :=
  match rule.layer with
  | none => .error (.unknownLayer "" s!"parameter rule {rule.name} requires a layer")
  | some layer =>
    if (config.layer? layer).isSome then .ok layer
    else .error (.unknownLayer layer s!"parameter rule {rule.name}")

/-- Interfaces are grouped as their rule says; groups without interfaces are left
out. -/
def shared (config : Config) : Grouping := fun network rule objects =>
  match rule.assign with
  | .object => eachAlone network rule objects
  | .segment => do
    let layer <- sharingLayer config rule
    pure (((network.segmentsIn layer).map fun id =>
      (network.segment id).connections.flatMap (endsAmong network objects)).filter
        fun group => !group.isEmpty)
  | .connection =>
    .ok ((network.connectionIds.map (endsAmong network objects)).filter
      fun group => !group.isEmpty)

end TopoPlan.Distribution
