import TopoPlan.Network.Construction
import TopoPlan.Proofs.Network.Shape
import TopoPlan.Proofs.Outcomes

/-!
# Links between objects

References lead both ways: a node lists the interfaces that are on it, and an
interface knows the connection that names it as an end.  `Linked` says so, and
`prepared_of_resolve` is the main statement: it holds of every network that comes
from a topology and has been resolved.
-/

namespace TopoPlan

/-- An interface is one of the two ends of a connection. -/
def Connection.HasEnd (connection : Connection) (id : InterfaceId) : Prop :=
  connection.source = id ∨ connection.target = id

instance (connection : Connection) (id : InterfaceId) : Decidable (connection.HasEnd id) :=
  inferInstanceAs (Decidable (_ ∨ _))

namespace Network

/-- References between nodes, interfaces and connections lead both ways. -/
structure Linked (network : Network) : Prop where
  onNode : ∀ id, ∀ port ∈ (network.node id).interfaces,
    port < network.interfaces.size ∧ (network.interface port).node = id
  listed : ∀ port, port < network.interfaces.size →
    port ∈ (network.node (network.interface port).node).interfaces
  ends : ∀ id, id < network.connections.size → ∀ port, (network.connection id).HasEnd port →
    port < network.interfaces.size ∧ (network.interface port).connection = some id
  links : ∀ port id, (network.interface port).connection = some id →
    id < network.connections.size ∧ (network.connection id).HasEnd port

/-- What is known of a network of so many nodes before segments are searched. -/
structure Prepared (count : Nat) (network : Network) : Prop where
  nodeCount : network.nodes.size = count
  linked : network.Linked
  unsegmented : network.segments = #[]

/-- The same links have the same ends. -/
theorem SameLinks.hasEnd {before after : Network} (same : SameLinks before after)
    (id : ConnectionId) (port : InterfaceId) :
    (after.connection id).HasEnd port ↔ (before.connection id).HasEnd port := by
  unfold Connection.HasEnd
  rw [same.source, same.target]

/-- References lead both ways in every network that is joined in the same way. -/
theorem SameLinks.linked {before after : Network} (same : SameLinks before after)
    (linked : before.Linked) : after.Linked where
  onNode id port listed := by
    rw [same.ports] at listed
    rw [same.interfaceCount, same.node]
    exact linked.onNode id port listed
  listed port inside := by
    rw [same.interfaceCount] at inside
    rw [same.node, same.ports]
    exact linked.listed port inside
  ends id inside port isEnd := by
    rw [same.connectionCount] at inside
    rw [same.interfaceCount, same.link]
    exact linked.ends id inside port ((same.hasEnd id port).mp isEnd)
  links port id link := by
    rw [same.link] at link
    rw [same.connectionCount, same.hasEnd]
    exact linked.links port id link

/-- Whether a network is prepared depends on its shape alone. -/
theorem SameShape.prepared {before after : Network} {count : Nat} (same : SameShape before after)
    (prepared : before.Prepared count) : after.Prepared count where
  nodeCount := same.nodeCount.trans prepared.nodeCount
  linked := same.linked prepared.linked
  unsegmented := same.segments.trans prepared.unsegmented

section Adding

variable (network : Network)

/-- The new interface is the last of the arena. -/
theorem interface_addInterface (added : Interface) (id : InterfaceId) :
    (network.addInterface added).interface id =
      if id = network.interfaces.size then added else network.interface id :=
  getD_push network.interfaces added default id

/-- The new interface is the last that its node lists. -/
theorem ports_addInterface (added : Interface) (id : NodeId) :
    ((network.addInterface added).node id).interfaces =
      if added.node = id ∧ id < network.nodes.size then
        (network.node id).interfaces ++ [network.interfaces.size]
      else (network.node id).interfaces := by
  unfold addInterface
  rw [node_updateNode]
  exact apply_ite Node.interfaces _ _ _

@[simp]
theorem size_interfaces_addInterface (added : Interface) :
    (network.addInterface added).interfaces.size = network.interfaces.size + 1 :=
  Array.size_push added

@[simp]
theorem size_nodes_addInterface (added : Interface) :
    (network.addInterface added).nodes.size = network.nodes.size :=
  Array.size_modify

/-- The new connection is the last of the arena. -/
theorem connection_addConnection (added : Connection) (id : ConnectionId) :
    (network.addConnection added).connection id =
      if id = network.connections.size then added else network.connection id :=
  getD_push network.connections added default id

@[simp]
theorem size_connections_addConnection (added : Connection) :
    (network.addConnection added).connections.size = network.connections.size + 1 :=
  Array.size_push added

@[simp]
theorem size_interfaces_addConnection (added : Connection) :
    (network.addConnection added).interfaces.size = network.interfaces.size := by
  simp [addConnection]

/-- A field of interfaces that is not the connection. -/
theorem interface_addConnection_field {β : Type} (field : Interface → β)
    (keeps : ∀ interface connection, field { interface with connection } = field interface)
    (added : Connection) (id : InterfaceId) :
    field ((network.addConnection added).interface id) = field (network.interface id) := by
  unfold addConnection
  rw [interface_updateInterface_field _ fun interface => keeps interface _,
    interface_updateInterface_field _ fun interface => keeps interface _]
  rfl

/-- The ends of the new connection are linked to it. -/
theorem link_addConnection (added : Connection) (id : InterfaceId) :
    ((network.addConnection added).interface id).connection =
      if added.HasEnd id ∧ id < network.interfaces.size then some network.connections.size
      else (network.interface id).connection := by
  unfold addConnection
  rw [interface_updateInterface, interface_updateInterface, size_interfaces_updateInterface]
  by_cases inside : id < network.interfaces.size
  · by_cases target : added.target = id
    · simp [target, inside, Connection.HasEnd]
    · by_cases source : added.source = id
      · simp [target, source, inside, Connection.HasEnd]
      · simp [target, source, Connection.HasEnd]
        rfl
  · simp only [inside, and_false, if_false]
    rfl

variable {network}

/-- A new interface of a node that there is, still without connection. -/
theorem Linked.addInterface (linked : network.Linked) {added : Interface}
    (inside : added.node < network.nodes.size) (free : added.connection = none) :
    (network.addInterface added).Linked where
  onNode id port listed := by
    rw [size_interfaces_addInterface, interface_addInterface]
    have old : port ∈ (network.node id).interfaces →
        port < network.interfaces.size + 1 ∧
          (if port = network.interfaces.size then added else network.interface port).node = id := by
      intro listed
      obtain ⟨below, node⟩ := linked.onNode id port listed
      rw [if_neg (Nat.ne_of_lt below)]
      exact ⟨Nat.lt_succ_of_lt below, node⟩
    rw [ports_addInterface] at listed
    split at listed
    case isTrue here =>
      rcases List.mem_append.mp listed with listed | last
      · exact old listed
      · rw [List.mem_singleton.mp last, if_pos rfl]
        exact ⟨Nat.lt_succ_self _, here.1⟩
    case isFalse => exact old listed
  listed port below := by
    rw [size_interfaces_addInterface] at below
    rw [interface_addInterface, ports_addInterface]
    rcases Nat.lt_succ_iff_lt_or_eq.mp below with below | last
    · rw [if_neg (Nat.ne_of_lt below)]
      have listed := linked.listed port below
      split
      · exact List.mem_append_left _ listed
      · exact listed
    · rw [if_pos last, if_pos ⟨rfl, inside⟩, last]
      exact List.mem_append_right _ (List.mem_singleton_self _)
  ends id below port isEnd := by
    obtain ⟨first, second⟩ := linked.ends id below port isEnd
    rw [size_interfaces_addInterface, interface_addInterface, if_neg (Nat.ne_of_lt first)]
    exact ⟨Nat.lt_succ_of_lt first, second⟩
  links port id link := by
    rw [interface_addInterface] at link
    split at link
    case isTrue => cases free.symm.trans link
    case isFalse => exact linked.links port id link

/-- A new connection of interfaces that there are and that have none. -/
theorem Linked.addConnection (linked : network.Linked) {added : Connection}
    (inside : ∀ port, added.HasEnd port → port < network.interfaces.size)
    (free : ∀ port, added.HasEnd port → (network.interface port).connection = none) :
    (network.addConnection added).Linked where
  onNode id port listed := by
    rw [size_interfaces_addConnection,
      interface_addConnection_field network Interface.node fun _ _ => rfl]
    exact linked.onNode id port listed
  listed port below := by
    rw [size_interfaces_addConnection] at below
    rw [interface_addConnection_field network Interface.node fun _ _ => rfl]
    exact linked.listed port below
  ends id below port isEnd := by
    rw [size_connections_addConnection] at below
    rw [connection_addConnection] at isEnd
    rw [size_interfaces_addConnection, link_addConnection]
    split at isEnd
    case isTrue last =>
      rw [if_pos ⟨isEnd, inside port isEnd⟩, last]
      exact ⟨inside port isEnd, rfl⟩
    case isFalse other =>
      have old : id < network.connections.size :=
        Nat.lt_of_le_of_ne (Nat.lt_succ_iff.mp below) other
      obtain ⟨first, second⟩ := linked.ends id old port isEnd
      rw [if_neg fun new => nomatch (free port new.1).symm.trans second]
      exact ⟨first, second⟩
  links port id link := by
    rw [link_addConnection] at link
    rw [size_connections_addConnection, connection_addConnection]
    split at link
    case isTrue new =>
      cases link
      rw [if_pos rfl]
      exact ⟨Nat.lt_succ_self _, new.1⟩
    case isFalse =>
      obtain ⟨below, isEnd⟩ := linked.links port id link
      rw [if_neg (Nat.ne_of_lt below)]
      exact ⟨Nat.lt_succ_of_lt below, isEnd⟩

end Adding

variable {network : Network} {count : Nat}

/-- An edge between two nodes that there are. -/
theorem Prepared.addEdge (prepared : network.Prepared count) (edge : GraphEdge)
    {source target : NodeId} (sourceInside : source < count) (targetInside : target < count) :
    (network.addEdge edge source target).Prepared count := by
  let first := interfaceOf source edge.sourceName edge.sourceLabels
  let second := interfaceOf target edge.targetName edge.targetLabels
  let ported := (network.addInterface first).addInterface second
  have one : (network.addInterface first).Linked := by
    refine prepared.linked.addInterface ?_ rfl
    rw [prepared.nodeCount]
    exact sourceInside
  have both : ported.Linked := by
    refine one.addInterface ?_ rfl
    rw [size_nodes_addInterface, prepared.nodeCount]
    exact targetInside
  have size : ported.interfaces.size = network.interfaces.size + 2 := by
    simp only [ported, size_interfaces_addInterface]
  refine ⟨?_, both.addConnection ?_ ?_, prepared.unsegmented⟩
  · exact (size_nodes_addInterface _ _).trans
      ((size_nodes_addInterface _ _).trans prepared.nodeCount)
  · rintro port (rfl | rfl)
    · rw [size]
      exact Nat.lt_add_of_pos_right Nat.two_pos
    · rw [size]
      exact Nat.lt_succ_self _
  · rintro port (rfl | rfl)
    · dsimp only [ported]
      rw [interface_addInterface, size_interfaces_addInterface,
        if_neg (Nat.ne_of_lt (Nat.lt_succ_self _)), interface_addInterface, if_pos rfl]
      rfl
    · dsimp only [ported]
      rw [interface_addInterface, size_interfaces_addInterface, if_pos rfl]
      rfl

/-- A group leaves a prepared network prepared. -/
theorem Prepared.addGroup (prepared : network.Prepared count) (group : Group) :
    (network.addGroup group).Prepared count := by
  have entered : SameShape { network with groups := network.groups.push group }
      (network.addGroup group) := by
    refine shape.foldl (fun current => current) ?_ _ group.nodes
    intro current member
    exact current.sameShape_updateNode fun _ => rfl
  have added : SameShape network { network with groups := network.groups.push group } :=
    { shape.refl network with }
  exact (shape.trans added entered).prepared prepared

/-- A node that is found is one of the topology. -/
theorem nodeAt_lt {topology : Topology} {context key : String} {id : NodeId}
    (found : nodeAt topology context key = .ok id) : id < topology.nodes.length := by
  unfold nodeAt at found
  split at found
  case h_1 position =>
    cases found
    exact (List.findIdx?_eq_some_iff_findIdx_eq.mp position).1
  case h_2 => cases found

/-- Induction over the construction of a network: nodes first, then edges between them,
then groups of them. -/
theorem ofTopology_induction {config : Config} {topology : Topology} {built : Network}
    {invariant : Network → Prop} (made : ofTopology config topology = .ok built)
    (nodes : ∀ parameters, invariant
      { nodes := (topology.nodes.map nodeOf).toArray
        classes := config.networkClasses.map (·.name)
        parameters })
    (edges : ∀ network edge source target, source < topology.nodes.length →
      target < topology.nodes.length → invariant network →
        invariant (network.addEdge edge source target))
    (groups : ∀ network given nodes, (∀ id ∈ nodes, id < topology.nodes.length) →
      invariant network → invariant (network.addGroup (groupOf given nodes))) :
    invariant built := by
  unfold ofTopology at made
  split at made
  case h_1 => cases made
  case h_2 =>
    obtain ⟨linked, edgesRun, groupsRun⟩ := Outcome.bind_eq_ok.mp made
    let motive {Entry : Type} (_ : List Entry) (current : Network) : Prop := invariant current
    refine Outcome.foldlM_induction (motive := motive) groupsRun ?_ ?_
    · refine Outcome.foldlM_induction (motive := motive) edgesRun (nodes _) ?_
      intro _ edge current next _ holds added
      obtain ⟨source, sourceAt, added⟩ := Outcome.bind_eq_ok.mp added
      obtain ⟨target, targetAt, added⟩ := Outcome.bind_eq_ok.mp added
      cases added
      exact edges current edge source target (nodeAt_lt sourceAt) (nodeAt_lt targetAt) holds
    · intro _ group current next _ holds added
      obtain ⟨listed, found, added⟩ := Outcome.bind_eq_ok.mp added
      cases added
      refine groups current group listed (fun id member => ?_) holds
      obtain ⟨key, _, keyAt⟩ := (Outcome.mem_mapM_iff found).mp member
      exact nodeAt_lt keyAt

/-- A field that is the same for every new node. -/
theorem node_of_nodes {β : Type} {value : β} (field : Node → β) (given : List GraphNode)
    (classes : List String) (parameters : Parameters) (absent : field default = value)
    (present : ∀ node, field (nodeOf node) = value) (id : NodeId) :
    field (node { nodes := (given.map nodeOf).toArray, classes, parameters } id) = value := by
  rw [node, Array.getD_eq_getD_getElem?, List.getElem?_toArray, List.getElem?_map]
  cases given[id]? with
  | none => exact absent
  | some found => exact present found

/-- Before there are edges no node has interfaces. -/
theorem prepared_of_nodes (given : List GraphNode) (classes : List String)
    (parameters : Parameters) :
    Prepared given.length { nodes := (given.map nodeOf).toArray, classes, parameters } where
  nodeCount := by rw [List.size_toArray, List.length_map]
  unsegmented := rfl
  linked :=
    { onNode id port listed := by
        rw [node_of_nodes Node.interfaces given classes parameters rfl fun _ => rfl] at listed
        cases listed
      listed port below := by cases below
      ends id below := by cases below
      links port id link := by cases link }

/-- References lead both ways in the network of a topology. -/
theorem prepared_of_ofTopology {config : Config} {topology : Topology} {built : Network}
    (made : ofTopology config topology = .ok built) : built.Prepared topology.nodes.length :=
  ofTopology_induction made (prepared_of_nodes topology.nodes _)
    (fun _ edge _ _ source target prepared => prepared.addEdge edge source target)
    fun _ _ _ _ prepared => prepared.addGroup _

/-- Resolution keeps the links. -/
theorem prepared_durable : Durable count (Prepared count) where
  tolerant := shape_tolerant.mono fun _ _ same => same.prepared
  nodeCount _ prepared := prepared.nodeCount
  management network node name className inside prepared := by
    have below : (Management.interfaceOf network node name className).node <
        network.nodes.size := by
      rw [prepared.nodeCount]
      exact inside
    have entered : (network.addInterface
        (Management.interfaceOf network node name className)).Prepared count := by
      refine ⟨?_, prepared.linked.addInterface below rfl, prepared.unsegmented⟩
      rw [size_nodes_addInterface, prepared.nodeCount]
    exact SameShape.prepared (sameShape_updateNode _ fun _ => rfl) entered
  member network member _ _ prepared := (network.sameShape_addMember member).prepared prepared

/-- References lead both ways in a resolved network. -/
theorem prepared_of_resolve {config : Config} {topology : Topology} {extra : ExtraClasses}
    {built resolved : Network} (made : ofTopology config topology = .ok built)
    (run : (resolve config extra).outcome built = (.ok (), resolved)) :
    resolved.Prepared topology.nodes.length :=
  prepared_durable.of_resolve run (prepared_of_ofTopology made)

end Network

end TopoPlan
