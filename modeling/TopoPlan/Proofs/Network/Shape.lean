import TopoPlan.Proofs.Network.Objects
import TopoPlan.Proofs.Network.Resolution

/-!
# The shape of a network

The shape of a network is how its objects are joined, with its segments.  Classes,
names and members leave it alone, so what is known of the shape of a fresh network
holds of the resolved one; management interfaces are the one exception.
-/

namespace TopoPlan.Network

/-- Nodes, interfaces and connections are joined in the same way. -/
structure SameLinks (before after : Network) : Prop where
  nodeCount : after.nodes.size = before.nodes.size
  interfaceCount : after.interfaces.size = before.interfaces.size
  connectionCount : after.connections.size = before.connections.size
  ports : ∀ id, (after.node id).interfaces = (before.node id).interfaces
  node : ∀ id, (after.interface id).node = (before.interface id).node
  link : ∀ id, (after.interface id).connection = (before.interface id).connection
  source : ∀ id, (after.connection id).source = (before.connection id).source
  target : ∀ id, (after.connection id).target = (before.connection id).target

/-- Objects are joined in the same way, and the segments are the same. -/
structure SameShape (before after : Network) : Prop extends SameLinks before after where
  segments : after.segments = before.segments

theorem SameLinks.refl (network : Network) : SameLinks network network :=
  ⟨rfl, rfl, rfl, fun _ => rfl, fun _ => rfl, fun _ => rfl, fun _ => rfl, fun _ => rfl⟩

/-- Links kept twice are kept. -/
theorem SameLinks.trans {before middle after : Network} (first : SameLinks before middle)
    (second : SameLinks middle after) : SameLinks before after :=
  ⟨second.nodeCount.trans first.nodeCount, second.interfaceCount.trans first.interfaceCount,
    second.connectionCount.trans first.connectionCount,
    fun id => (second.ports id).trans (first.ports id),
    fun id => (second.node id).trans (first.node id),
    fun id => (second.link id).trans (first.link id),
    fun id => (second.source id).trans (first.source id),
    fun id => (second.target id).trans (first.target id)⟩

/-- The frame of stages that leave the shape alone. -/
def shape : Frame where
  holds := SameShape
  refl network := ⟨.refl network, rfl⟩
  trans first second := ⟨first.toSameLinks.trans second.toSameLinks,
    second.segments.trans first.segments⟩

variable (network : Network)

/-- A change of a node that keeps its interfaces keeps the shape. -/
theorem sameShape_updateNode {id : NodeId} {change : Node → Node}
    (ports : ∀ node, (change node).interfaces = node.interfaces) :
    SameShape network (network.updateNode id change) :=
  { shape.refl network with
    nodeCount := network.size_nodes_updateNode id change
    ports := network.node_updateNode_field ports id }

/-- A change of an interface that keeps its node and its connection keeps the shape. -/
theorem sameShape_updateInterface {id : InterfaceId} {change : Interface → Interface}
    (node : ∀ interface, (change interface).node = interface.node)
    (link : ∀ interface, (change interface).connection = interface.connection) :
    SameShape network (network.updateInterface id change) :=
  { shape.refl network with
    interfaceCount := network.size_interfaces_updateInterface id change
    node := network.interface_updateInterface_field node id
    link := network.interface_updateInterface_field link id }

/-- A change of a connection that keeps its ends keeps the shape. -/
theorem sameShape_updateConnection {id : ConnectionId} {change : Connection → Connection}
    (source : ∀ connection, (change connection).source = connection.source)
    (target : ∀ connection, (change connection).target = connection.target) :
    SameShape network (network.updateConnection id change) :=
  { shape.refl network with
    connectionCount := network.size_connections_updateConnection id change
    source := network.connection_updateConnection_field source id
    target := network.connection_updateConnection_field target id }

/-- Groups are no part of the shape. -/
theorem sameShape_updateGroup (id : GroupId) (change : Group → Group) :
    SameShape network (network.updateGroup id change) :=
  { shape.refl network with }

/-- The index of classes is no part of the shape. -/
theorem sameShape_enter (kind : ClassKind) (className : String) (scope : Scope) :
    SameShape network (network.enter kind className scope) := by
  unfold enter
  split
  · exact shape.refl network
  · exact { shape.refl network with }

/-- Classes and names leave the shape alone. -/
theorem shape_tolerant : shape.Tolerant where
  node network _ _ keeps :=
    network.sameShape_updateNode fun node => congrArg (·.2.1) (keeps node)
  interface network _ _ keeps :=
    network.sameShape_updateInterface (fun interface => congrArg (·.1) (keeps interface))
      fun interface => congrArg (·.2.1) (keeps interface)
  connection network _ _ keeps :=
    network.sameShape_updateConnection (fun connection => congrArg (·.1) (keeps connection))
      fun connection => congrArg (·.2.1) (keeps connection)
  group network id _ _ := network.sameShape_updateGroup id _
  enter network := network.sameShape_enter
  parameters network _ := { shape.refl network with }

/-- Members are no part of the shape. -/
theorem sameShape_addMember (member : Member) :
    SameShape network (network.addMember member) := by
  refine shape.addMember (fun _ => { shape.refl network with }) ?_ ?_ ?_ member
  · exact fun current _ _ => current.sameShape_updateNode fun _ => rfl
  · exact fun current _ _ => current.sameShape_updateInterface (fun _ => rfl) fun _ => rfl
  · exact fun current _ _ => current.sameShape_updateConnection (fun _ => rfl) fun _ => rfl

end TopoPlan.Network
