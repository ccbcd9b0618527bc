import TopoPlan.Config.Basic
import TopoPlan.Data.Yaml.Printer
import TopoPlan.Network.Description
import TopoPlan.Network.Stage

/-!
# Effects of classes

Every object has the classes that its labels name, the implicit classes `all` and
`default`, and the classes that extensions add to all objects of its kind.  A class
acts on an object once: it gives policies, requests rules, declares members and
sets parameters that no label and no earlier class has set.  A primary class also
gives a naming stem and platform attributes; an object has at most one.
-/

namespace TopoPlan

/-- Classes that extensions add to every object of a kind. -/
structure ExtraClasses where
  node : List String := []
  interface : List String := []
  connection : List String := []
  deriving DecidableEq, Inhabited

namespace ClassEffects

/-- The class names of an object: implicit classes, labels, extensions. -/
def classNames (config : Config) (kind : ClassKind) (labels : Labels) (extra : List String) :
    List String :=
  labels.withImplicit (config.hasClass kind Labels.allClass)
    (config.hasClass kind Labels.defaultClass) ++ extra

/-- The layer of a policy that a class names. -/
def policyLayer (config : Config) (kind : ClassKind) (className policy : String) :
    Except CompileError String :=
  match config.policy? policy with
  | some (layer, _) => .ok layer.name
  | none => .error (.unknownPolicy policy kind.name className)

/-- Give an object, reached by `update`, the policies that a class names. -/
def givePolicies (config : Config) (kind : ClassKind) (className : String)
    (update : (Table String -> Table String) -> Network -> Network) (policies : List String) :
    Stage Unit :=
  policies.forM fun policy => do
    let layer <- Stage.ofExcept (policyLayer config kind className policy)
    modify (update fun table => table.insert layer policy)

/-- The policies among the requests of a class, by layer. -/
def requestedPolicies (config : Config) (params : List String) : List (String × String) :=
  params.filterMap fun param => (config.policy? param).map fun found => (found.1.name, param)

/-- The rules among the requests of a class. -/
def requestedRules (config : Config) (params : List String) : List String :=
  params.filter fun param => (config.policy? param).isNone

/-- Flag the rules that a class requests. -/
def flagRules (config : Config) (params : List String) (parameters : Parameters) : Parameters :=
  (requestedRules config params).foldl (fun current name => current.flag name) parameters

/-- The parameters that a class sets, as text. -/
def classParameters (values : Table Value) : List (String × String) :=
  values.toList.map fun entry => (entry.1, entry.2.parameterText)

/-- A layer that a class names exists. -/
def checkLayer (config : Config) (context layer : String) : Stage Unit :=
  if (config.layer? layer).isSome then pure () else throw (.unknownLayer layer context)

/-- The declarations of members of a class, with its name. -/
def declarations (className : String) (members : List MemberClass) :
    List (String × MemberClass) :=
  members.map fun member => (className, member)

/-- A class that is not primary has no field of primary classes. -/
def checkSecondary (kind : ClassKind) (className : String) (stem managementClass : Option String)
    (tinet clab : Table Value) : Stage Unit :=
  if stem.isSome then throw (.primaryOnlyField "prefix" kind.name className)
  else if managementClass.isSome then
    throw (.primaryOnlyField "mgmt_interfaceclass" kind.name className)
  else if !tinet.isEmpty || !clab.isEmpty then
    throw (.primaryOnlyField "platform attributes" kind.name className)
  else pure ()

/-- No other primary class came before. -/
def checkFirstPrimary (kind : ClassKind) (object : String) (first : Option String)
    (className : String) : Stage Unit :=
  match first with
  | some first => throw (.duplicatePrimary kind.name object first className)
  | none => pure ()

/-- Make a node class the primary class of a node. -/
def makePrimaryNode (config : Config) (id : NodeId) (object : String) (definition : NodeClass) :
    Stage Unit := do
  checkFirstPrimary .node object ((<- get).node id).primaryClass definition.name
  modify fun network => network.updateNode id fun node =>
    { node with
      primaryClass := some definition.name
      stem := definition.stem.getD node.stem }
  match definition.managementClass with
  | none => pure ()
  | some name =>
    if (config.interfaceClass? name).isNone then
      throw (.unknownClass ClassKind.interface.name name ("nodeclass " ++ definition.name))
    modify fun network => network.updateNode id fun node =>
      { node with managementClass := some name }
  modify fun network => network.updateNode id fun node =>
    { node with tinet := definition.tinet, clab := definition.clab }

/-- Let a node class act on a node. -/
def applyNodeClass (config : Config) (id : NodeId) (definition : NodeClass) : Stage Unit := do
  let object := (<- get).describe (.node id)
  modify fun network => network.enter .node definition.name (.node id)
  let interfaces := ((<- get).node id).interfaces
  definition.interfacePolicies.forM fun policy => do
    interfaces.forM fun interface =>
      givePolicies config .node definition.name
        (fun change network => network.updateInterface interface fun found =>
          { found with policies := change found.policies }) [policy]
    if interfaces.isEmpty then
      givePolicies config .node definition.name (fun _ network => network) [policy]
  modify fun network => network.updateNode id fun node =>
    { node with
      classes := node.classes ++ [definition.name]
      isVirtual := node.isVirtual || definition.isVirtual }
  givePolicies config .node definition.name
    (fun change network => network.updateNode id fun node =>
      { node with policies := change node.policies }) definition.policies
  modify fun network => network.updateNode id fun node =>
    { node with
      policies := node.policies.setAll (requestedPolicies config definition.params)
      parameters := flagRules config definition.params node.parameters
      memberClasses := node.memberClasses ++ declarations definition.name definition.members }
  if definition.primary then makePrimaryNode config id object definition
  else
    checkSecondary .node definition.name definition.stem definition.managementClass
      definition.tinet definition.clab
  modify fun network => network.updateNode id fun node =>
    { node with parameters := node.parameters.addAll (classParameters definition.values) }

/-- Let the classes of a node act on it. -/
def resolveNode (config : Config) (extra : List String) (id : NodeId) : Stage Unit := do
  let names := classNames config .node ((<- get).node id).labels extra
  modify fun network => network.updateNode id fun node => { node with stem := nodeStem }
  names.forM fun name => do
    let network <- get
    let definition <- Stage.require (config.nodeClass? name)
      (.unknownClass ClassKind.node.name name (network.describe (.node id)))
    if !(network.node id).classes.contains definition.name then
      applyNodeClass config id definition

/-- Let a connection class act on a connection. -/
def applyConnectionClass (config : Config) (id : ConnectionId) (object : String)
    (definition : ConnectionClass) : Stage Unit := do
  modify fun network => network.enter .connection definition.name (.connection id)
  definition.layers.forM (checkLayer config ("connectionclass " ++ definition.name))
  givePolicies config .connection definition.name (fun _ network => network) definition.policies
  modify fun network => network.updateConnection id fun connection =>
    { connection with
      classes := connection.classes ++ [definition.name]
      isVirtual := connection.isVirtual || definition.isVirtual
      parameters := flagRules config definition.params connection.parameters
      layers := connection.layers.addAll definition.layers
      memberClasses :=
        connection.memberClasses ++ declarations definition.name definition.members }
  if definition.primary then
    checkFirstPrimary .connection object ((<- get).connection id).primaryClass definition.name
    modify fun network => network.updateConnection id fun connection =>
      { connection with primaryClass := some definition.name, stem := definition.stem }
  else
    checkSecondary .connection definition.name definition.stem none
      definition.tinet definition.clab
  modify fun network => network.updateConnection id fun connection =>
    { connection with
      parameters := connection.parameters.addAll (classParameters definition.values) }

/-- Let the classes of a connection act on it. -/
def resolveConnection (config : Config) (extra : List String) (id : ConnectionId) :
    Stage Unit := do
  let start <- get
  let names := classNames config .connection (start.connection id).labels extra
  let object := start.describe (.connection id)
  modify fun network => network.updateConnection id fun connection =>
    { connection with layers := connection.layers.addAll config.defaultLayers }
  names.forM fun name => do
    let definition <- Stage.require (config.connectionClass? name)
      (.unknownClass ClassKind.connection.name name object)
    if !((<- get).connection id).classes.contains definition.name then
      applyConnectionClass config id object definition

/-- Ask for neighbors of an interface in the layers that a class declares. -/
def giveNeighborLayers (config : Config) (id : InterfaceId) (context : String)
    (neighbors : List NeighborClass) : Stage Unit :=
  neighbors.forM fun neighbor => do
    checkLayer config context neighbor.layer
    modify fun network => network.updateInterface id fun interface =>
      { interface with neighborLayers := interface.neighborLayers.insert neighbor.layer }

/-- Give an interface the policies that a class names. -/
def giveInterfacePolicies (config : Config) (kind : ClassKind) (className : String)
    (id : InterfaceId) (policies : List String) : Stage Unit :=
  givePolicies config kind className
    (fun change network => network.updateInterface id fun interface =>
      { interface with policies := change interface.policies }) policies

/-- Give an interface what a class of its connection or of itself requests. -/
def giveRequests (config : Config) (id : InterfaceId) (params : List String) : Stage Unit :=
  modify fun network => network.updateInterface id fun interface =>
    { interface with
      policies := interface.policies.setAll (requestedPolicies config params)
      parameters := flagRules config params interface.parameters }

/-- Give an interface the declarations of members of a class. -/
def giveDeclarations (id : InterfaceId) (className : String) (members : List MemberClass) :
    Stage Unit :=
  modify fun network => network.updateInterface id fun interface =>
    { interface with memberClasses := interface.memberClasses ++ declarations className members }

/-- Let a class of a connection act on an end of it. -/
def applyConnectionClassToEnd (config : Config) (id : InterfaceId)
    (definition : ConnectionClass) : Stage Unit := do
  giveInterfacePolicies config .connection definition.name id definition.policies
  giveRequests config id definition.params
  giveNeighborLayers config id ("connectionclass " ++ definition.name) definition.neighbors
  giveDeclarations id definition.name definition.members

/-- Let the classes of its connection act on an interface. -/
def applyConnectionToEnd (config : Config) (id : InterfaceId) (connection : Connection) :
    Stage Unit := do
  connection.classes.forM fun name =>
    match config.connectionClass? name with
    | some definition => applyConnectionClassToEnd config id definition
    | none => pure ()
  modify fun network => network.updateInterface id fun interface =>
    { interface with
      isVirtual := interface.isVirtual || connection.isVirtual
      stem := connection.stem.getD interface.stem }

/-- A primary class of an interface needs a connection without one, unless the
interface itself has one already. -/
def checkConnectionPrimary (id : InterfaceId) (object : String) (definition : InterfaceClass) :
    Stage Unit := do
  let network <- get
  let interface := network.interface id
  if definition.primary && interface.primaryClass.isNone then
    checkFirstPrimary .interface object
      (interface.connection.bind fun found => (network.connection found).primaryClass)
      definition.name
  else pure ()

/-- Give the connection of an interface the layers and the mark of an interface class. -/
def widenConnection (id : InterfaceId) (definition : InterfaceClass) : Stage Unit := do
  match ((<- get).interface id).connection with
  | some found =>
    modify fun network => network.updateConnection found fun connection =>
      { connection with
        layers := connection.layers.addAll definition.layers
        isVirtual := connection.isVirtual || definition.isVirtual }
  | none => pure ()

/-- Make an interface class the primary class of an interface. -/
def makePrimaryInterface (id : InterfaceId) (object : String) (definition : InterfaceClass) :
    Stage Unit := do
  checkFirstPrimary .interface object ((<- get).interface id).primaryClass definition.name
  modify fun network => network.updateInterface id fun interface =>
    { interface with
      primaryClass := some definition.name
      stem := definition.stem.getD interface.stem
      tinet := definition.tinet
      clab := definition.clab }

/-- Let an interface class act on an interface and on its connection. -/
def applyInterfaceClass (config : Config) (id : InterfaceId) (object : String)
    (definition : InterfaceClass) : Stage Unit := do
  let context := "interfaceclass " ++ definition.name
  modify fun network => network.enter .interface definition.name (.interface id)
  definition.layers.forM (checkLayer config context)
  checkConnectionPrimary id object definition
  widenConnection id definition
  modify fun network => network.updateInterface id fun interface =>
    { interface with
      classes := interface.classes ++ [definition.name]
      isVirtual := interface.isVirtual || definition.isVirtual }
  giveInterfacePolicies config .interface definition.name id definition.policies
  giveRequests config id definition.params
  giveNeighborLayers config id context definition.neighbors
  giveDeclarations id definition.name definition.members
  if definition.primary then makePrimaryInterface id object definition
  else
    checkSecondary .interface definition.name definition.stem none
      definition.tinet definition.clab
  modify fun network => network.updateInterface id fun interface =>
    { interface with
      parameters := interface.parameters.addAll (classParameters definition.values) }

/-- Let the interface class of a name act on an interface that has not got it. -/
def addInterfaceClass (config : Config) (id : InterfaceId) (name : String) : Stage Unit := do
  let network <- get
  let object := network.describe (.interface id)
  let definition <- Stage.require (config.interfaceClass? name)
    (.unknownClass ClassKind.interface.name name object)
  if !(network.interface id).classes.contains definition.name then
    applyInterfaceClass config id object definition

/-- Let the classes of an interface, after those of its connection, act on it.  The
class of management interfaces is not for interfaces of the topology. -/
def resolveInterface (config : Config) (extra : List String) (id : InterfaceId) :
    Stage Unit := do
  let start <- get
  let interface := start.interface id
  let node := start.node interface.node
  modify fun network => network.updateInterface id fun found =>
    { found with isVirtual := node.isVirtual, stem := interfaceStem }
  match interface.connection with
  | some connection => applyConnectionToEnd config id (start.connection connection)
  | none => pure ()
  (classNames config .interface interface.labels extra).forM fun name => do
    let network <- get
    if node.managementClass == some name && !(network.interface id).isManagement then
      throw (.misplacedManagementClass name (network.describe (.interface id)))
    addInterfaceClass config id name

/-- Let a group class act on a group. -/
def applyGroupClass (config : Config) (id : GroupId) (definition : GroupClass) : Stage Unit := do
  modify fun network => network.enter .group definition.name (.group id)
  modify fun network => network.updateGroup id fun group =>
    { group with
      classes := group.classes ++ [definition.name]
      isVirtual := group.isVirtual || definition.isVirtual
      parameters := (flagRules config definition.params group.parameters).addAll
        (classParameters definition.values) }

/-- Let the classes of a group act on it. -/
def resolveGroup (config : Config) (id : GroupId) : Stage Unit := do
  (classNames config .group ((<- get).group id).labels []).forM fun name => do
    let network <- get
    let definition <- Stage.require (config.groupClass? name)
      (.unknownClass ClassKind.group.name name (network.describe (.group id)))
    if !(network.group id).classes.contains definition.name then
      applyGroupClass config id definition

/-- Let a network class act on the network. -/
def applyNetworkClass (network : Network) (definition : NetworkClass) : Network :=
  { network.enter .network definition.name .network with
    parameters := network.parameters.addAll (classParameters definition.values) }

/-- Let all network classes act on the network. -/
def resolveNetwork (config : Config) : Stage Unit :=
  modify fun network => config.networkClasses.foldl applyNetworkClass network

/-- Let the classes of all objects act: nodes first, then connections, interfaces,
groups and the network. -/
def resolveClasses (config : Config) (extra : ExtraClasses) : Stage Unit := do
  (<- get).nodeIds.forM (resolveNode config extra.node)
  (<- get).connectionIds.forM (resolveConnection config extra.connection)
  (<- get).interfaceIds.forM (resolveInterface config extra.interface)
  (<- get).groupIds.forM (resolveGroup config)
  resolveNetwork config

end ClassEffects

end TopoPlan
