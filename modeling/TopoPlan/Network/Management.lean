import TopoPlan.Network.ClassEffects

/-!
# Management interfaces

A node whose primary class names a class of management interfaces gets one more
interface, without connection, that has this class.
-/

namespace TopoPlan.Management

/-- The management interface of a node. -/
def interfaceOf (network : Network) (node : NodeId) (name className : String) : Interface where
  name := name
  node := node
  labels := { classes := [className] }
  isManagement := true
  isVirtual := (network.node node).isVirtual
  stem := interfaceStem

/-- Add the management interface of a node. -/
def addInterface (config : Config) (management : ManagementLayer) (node : NodeId)
    (className : String) : Stage Unit := do
  let network <- get
  let name := management.interface
  if (network.findInterface? node name).isSome then
    throw (.duplicateName "interface" ((network.node node).name ++ "." ++ name))
  let id := network.interfaces.size
  modify fun current => (current.addInterface (interfaceOf network node name className)).updateNode
    node fun found => { found with managementInterface := some id }
  if config.hasClass .interface Labels.allClass then
    ClassEffects.addInterfaceClass config id Labels.allClass
  ClassEffects.addInterfaceClass config id className

/-- Add the management interfaces of all nodes, if there is a management layer. -/
def addInterfaces (config : Config) : Stage Unit := do
  match config.management with
  | none => pure ()
  | some management =>
    let network <- get
    let wanted := network.nodeIds.filterMap fun id =>
      (network.node id).managementClass.map fun className => (id, className)
    wanted.forM fun entry => addInterface config management entry.1 entry.2

end TopoPlan.Management
