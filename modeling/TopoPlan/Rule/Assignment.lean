import TopoPlan.Config.ParamName
import TopoPlan.Rule.Attachment
import TopoPlan.Rule.Distribution

/-!
# Assignment of parameters

Every object has its name as a parameter, and then the parameters of the rules that
it requests.  Interfaces come last: they take over the parameters of their node and
of their connection under stems.
-/

namespace TopoPlan.Assignment

/-- The stem of parameters that an interface takes over from its node. -/
def nodeStart : String := "node_"

/-- The stem of parameters that an interface takes over from its connection. -/
def connectionStart : String := "conn_"

/-- Entries with a stem before their names. -/
def withStart (start : String) (entries : Table String) : List (String × String) :=
  entries.toList.map fun entry => (start ++ entry.1, entry.2)

/-- Give objects their names as parameters. -/
def nameObjects (network : Network) (scopes : List Scope) : Network :=
  scopes.foldl
    (fun (current : Network) scope =>
      current.updateParameters scope (·.set ParamName.objectName (network.sortKey scope)))
    network

/-- Name objects of one kind and distribute what they request. -/
def assignKind (config : Config) (files : TextFiles) (scopes : Network -> List Scope) :
    Stage Unit := do
  modify fun network => nameObjects network (scopes network)
  Distribution.distribute config files Distribution.eachAlone (scopes (<- get))

/-- What an interface takes over: its name, and the parameters of its node and of its
connection. -/
def takenOver (network : Network) (id : InterfaceId) : List (String × String) :=
  let interface := network.interface id
  let connectionEntries :=
    match interface.connection with
    | some connection =>
      withStart connectionStart (network.connection connection).parameters.own
    | none => []
  (ParamName.objectName, interface.name) ::
    withStart nodeStart (network.node interface.node).parameters.own ++ connectionEntries

/-- Let an interface take over its parameters. -/
def takeOver (network : Network) (id : InterfaceId) : Network :=
  network.updateInterface id fun interface =>
    { interface with parameters := interface.parameters.setAll (takenOver network id) }

/-- The interfaces in the order of their nodes. -/
def interfacesByNode (network : Network) : List InterfaceId :=
  network.nodeIds.flatMap fun id => (network.node id).interfaces

/-- Let interfaces take over their parameters and distribute what they request. -/
def assignInterfaces (config : Config) (files : TextFiles) : Stage Unit := do
  let ids := interfacesByNode (<- get)
  modify fun network => ids.foldl takeOver network
  Distribution.distribute config files (Distribution.shared config) (ids.map Scope.interface)

/-- Assign all parameters. -/
def assignAll (config : Config) (files : TextFiles) (generators : Generators) : Stage Unit := do
  modify fun network => network.updateParameters .network (·.set ParamName.objectName config.name)
  assignKind config files fun network => network.nodeIds.map Scope.node
  assignKind config files fun network => network.connectionIds.map Scope.connection
  assignKind config files fun network => network.groupIds.map Scope.group
  assignKind config files fun network => network.segmentIds.map Scope.segment
  assignInterfaces config files
  Attaching.attachAll config files generators

end TopoPlan.Assignment
