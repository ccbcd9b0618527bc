import Mathlib.Data.List.Nodup
import TopoPlan.Network.Children
import TopoPlan.Proofs.Network.Links

/-!
# Lists of objects

Interfaces, neighbors and members are entered in the list of their owner when they are
added, and groups are entered at their nodes.  `Coherent` says that these lists and the
objects agree; the main statement is `assembled_of_resolve`: they do in every network
that comes from a topology and has been resolved.
-/

namespace TopoPlan

/-- The first so many ids are listed once each, at their owners and nowhere else. -/
def ListedOnce {Owner : Type} [DecidableEq Owner] (size : Nat) (owner : Nat → Owner)
    (lists : Owner → List Nat) : Prop :=
  ∀ place id, (lists place).count id = if id < size ∧ owner id = place then 1 else 0

namespace ListedOnce

variable {Owner : Type} [DecidableEq Owner] {size : Nat} {owner : Nat → Owner}
  {lists : Owner → List Nat}

/-- An owner lists exactly the handles inside the arena that name it. -/
theorem mem_iff (listed : ListedOnce size owner lists) {place : Owner} {id : Nat} :
    id ∈ lists place ↔ id < size ∧ owner id = place := by
  rw [← List.count_pos_iff, listed]
  split <;> simp_all

/-- No owner lists a handle twice. -/
theorem nodup (listed : ListedOnce size owner lists) (place : Owner) : (lists place).Nodup := by
  rw [List.nodup_iff_count_le_one]
  intro id
  rw [listed]
  split <;> decide

/-- Empty lists list an empty arena. -/
theorem of_empty (empty : ∀ place, lists place = []) : ListedOnce 0 owner lists := by
  intro place id
  rw [empty]
  simp

/-- The same lists of as many ids with the same owners. -/
theorem congr (listed : ListedOnce size owner lists) {otherSize : Nat} {otherOwner : Nat → Owner}
    {otherLists : Owner → List Nat} (sizes : otherSize = size)
    (owners : ∀ id, otherOwner id = owner id) (same : ∀ place, otherLists place = lists place) :
    ListedOnce otherSize otherOwner otherLists := by
  intro place id
  rw [sizes, owners, same]
  exact listed place id

/-- A new id at the end of the list of its owner. -/
theorem push (listed : ListedOnce size owner lists) {otherOwner : Nat → Owner}
    {otherLists : Owner → List Nat} (owners : ∀ id, id ≠ size → otherOwner id = owner id)
    (same : ∀ place, otherLists place =
      if place = otherOwner size then lists place ++ [size] else lists place) :
    ListedOnce (size + 1) otherOwner otherLists := by
  intro place id
  have before := listed place id
  rw [same]
  by_cases last : id = size
  · subst last
    by_cases here : place = otherOwner id
    · simp [here] at before ⊢
      exact before
    · simp [here, Ne.symm here] at before ⊢
      exact before
  · have below : id < size + 1 ↔ id < size := by omega
    simp only [owners id last, below, ← before]
    split
    · simp [Ne.symm last]
    · rfl

/-- The lists of all places together have each id once. -/
theorem perm (listed : ListedOnce size owner lists) {places : List Owner} (once : places.Nodup)
    (covers : ∀ id < size, owner id ∈ places) :
    (places.flatMap lists).Perm (List.range size) := by
  have different : (places.flatMap lists).Nodup := by
    refine List.nodup_flatMap.mpr ⟨fun place _ => listed.nodup place, ?_⟩
    refine once.imp fun different id inLeft inRight => different ?_
    exact (listed.mem_iff.mp inLeft).2.symm.trans (listed.mem_iff.mp inRight).2
  refine (List.perm_ext_iff_of_nodup different List.nodup_range).mpr fun id => ?_
  rw [List.mem_flatMap, List.mem_range]
  constructor
  · rintro ⟨place, _, own⟩
    exact (listed.mem_iff.mp own).1
  · exact fun inside => ⟨owner id, covers id inside, listed.mem_iff.mpr ⟨inside, rfl⟩⟩

end ListedOnce

namespace Network

/-- The neighbors entered at an interface under a layer. -/
def neighborsAt (network : Network) (place : InterfaceId × String) : List NeighborId :=
  (network.interface place.1).neighbors.getD place.2 []

/-- Objects are in the lists of their owners, and groups are entered at their nodes. -/
structure Coherent (network : Network) : Prop where
  interfaces : ListedOnce network.interfaces.size (fun id => (network.interface id).node)
    fun id => (network.node id).interfaces
  neighbors : ListedOnce network.neighbors.size
    (fun id => ((network.neighbor id).self, (network.neighbor id).layer)) network.neighborsAt
  members : ListedOnce network.members.size (fun id => (network.member id).referrer)
    network.membersAt
  groups : ∀ node group,
    (network.node node).groups.count group = (network.group group).nodes.count node

/-- The nodes together list every interface once. -/
theorem ports_perm {network : Network}
    (listed : ListedOnce network.interfaces.size (fun id => (network.interface id).node)
      fun id => (network.node id).interfaces) :
    (network.nodeIds.flatMap fun id => (network.node id).interfaces).Perm network.interfaceIds :=
  listed.perm List.nodup_range fun _ inside =>
    List.mem_range.mpr (lt_size_of_mem Node.interfaces (listed.mem_iff.mpr ⟨inside, rfl⟩) rfl)

section Changes

variable {network : Network}

/-- A change of a node that keeps its members keeps the members of every scope. -/
theorem membersAt_updateNode {change : Node → Node}
    (keeps : ∀ node, (change node).members = node.members) (id : NodeId) (scope : Scope) :
    (network.updateNode id change).membersAt scope = network.membersAt scope := by
  cases scope with
  | node other => exact network.node_updateNode_field keeps id other
  | _ => rfl

/-- A change of an interface that keeps its members keeps those of every scope. -/
theorem membersAt_updateInterface {change : Interface → Interface}
    (keeps : ∀ interface, (change interface).members = interface.members) (id : InterfaceId)
    (scope : Scope) :
    (network.updateInterface id change).membersAt scope = network.membersAt scope := by
  cases scope with
  | interface other => exact network.interface_updateInterface_field keeps id other
  | _ => rfl

/-- A change of a connection that keeps its members keeps those of every scope. -/
theorem membersAt_updateConnection {change : Connection → Connection}
    (keeps : ∀ connection, (change connection).members = connection.members) (id : ConnectionId)
    (scope : Scope) :
    (network.updateConnection id change).membersAt scope = network.membersAt scope := by
  cases scope with
  | connection other => exact network.connection_updateConnection_field keeps id other
  | _ => rfl

/-- A change of an interface that keeps its neighbors keeps those of every place. -/
theorem neighborsAt_updateInterface {change : Interface → Interface}
    (keeps : ∀ interface, (change interface).neighbors = interface.neighbors) (id : InterfaceId)
    (place : InterfaceId × String) :
    (network.updateInterface id change).neighborsAt place = network.neighborsAt place :=
  congrArg (fun table : Table (List NeighborId) => table.getD place.2 [])
    (network.interface_updateInterface_field keeps id place.1)

/-- A change of a node that leaves its lists alone. -/
theorem Coherent.updateNode (coherent : network.Coherent) {id : NodeId} {change : Node → Node}
    (interfaces : ∀ node, (change node).interfaces = node.interfaces)
    (groups : ∀ node, (change node).groups = node.groups)
    (members : ∀ node, (change node).members = node.members) :
    (network.updateNode id change).Coherent :=
  { coherent with
    interfaces := coherent.interfaces.congr rfl (fun _ => rfl)
      (network.node_updateNode_field interfaces id)
    members := coherent.members.congr rfl (fun _ => rfl) (membersAt_updateNode members id)
    groups := fun node group => by
      rw [network.node_updateNode_field groups id]
      exact coherent.groups node group }

/-- A change of an interface that leaves its node and its lists alone. -/
theorem Coherent.updateInterface (coherent : network.Coherent) {id : InterfaceId}
    {change : Interface → Interface} (node : ∀ interface, (change interface).node = interface.node)
    (neighbors : ∀ interface, (change interface).neighbors = interface.neighbors)
    (members : ∀ interface, (change interface).members = interface.members) :
    (network.updateInterface id change).Coherent :=
  { coherent with
    interfaces := coherent.interfaces.congr (network.size_interfaces_updateInterface id change)
      (network.interface_updateInterface_field node id) fun _ => rfl
    neighbors := coherent.neighbors.congr rfl (fun _ => rfl)
      (neighborsAt_updateInterface neighbors id)
    members := coherent.members.congr rfl (fun _ => rfl) (membersAt_updateInterface members id) }

/-- A change of a connection that leaves its members alone. -/
theorem Coherent.updateConnection (coherent : network.Coherent) {id : ConnectionId}
    {change : Connection → Connection}
    (members : ∀ connection, (change connection).members = connection.members) :
    (network.updateConnection id change).Coherent :=
  { coherent with
    members := coherent.members.congr rfl (fun _ => rfl) (membersAt_updateConnection members id) }

/-- A change of a group that leaves its nodes alone. -/
theorem Coherent.updateGroup (coherent : network.Coherent) {id : GroupId} {change : Group → Group}
    (nodes : ∀ group, (change group).nodes = group.nodes) :
    (network.updateGroup id change).Coherent :=
  { coherent with
    groups := fun node group => by
      rw [network.group_updateGroup_field nodes id]
      exact coherent.groups node group }

/-- An entry in the index of classes keeps a network coherent. -/
theorem Coherent.enter (coherent : network.Coherent) (kind : ClassKind) (className : String)
    (scope : Scope) : (network.enter kind className scope).Coherent := by
  unfold Network.enter
  split
  · exact coherent
  · exact { coherent with }

/-- Classes and names leave all lists alone. -/
theorem coherent_tolerant : (Frame.ofInvariant Coherent).Tolerant where
  node _ _ _ keeps coherent := coherent.updateNode (fun node => congrArg (·.2.1) (keeps node))
    (fun node => congrArg (·.2.2.1) (keeps node)) fun node => congrArg (·.2.2.2.2.1) (keeps node)
  interface _ _ _ keeps coherent :=
    coherent.updateInterface (fun interface => congrArg (·.1) (keeps interface))
      (fun interface => congrArg (·.2.2.2.1) (keeps interface))
      fun interface => congrArg (·.2.2.2.2.1) (keeps interface)
  connection _ _ _ keeps coherent :=
    coherent.updateConnection fun connection => congrArg (·.2.2.2.1) (keeps connection)
  group _ _ _ keeps coherent :=
    coherent.updateGroup fun group => congrArg (·.2.2.1) (keeps group)
  enter _ kind className scope coherent := coherent.enter kind className scope
  parameters _ _ coherent := { coherent with }

end Changes

section Adding

variable {network : Network}

/-- A field of interfaces that a new one does not set yet. -/
theorem interface_addInterface_field {β : Type} (field : Interface → β) {added : Interface}
    (bare : field added = field default) (id : InterfaceId) :
    field ((network.addInterface added).interface id) = field (network.interface id) := by
  rw [interface_addInterface]
  split
  case isTrue last =>
    have absent : network.interface id = default := getD_of_size_le (Nat.le_of_eq last.symm)
    rw [bare, absent]
  case isFalse => rfl

/-- A field of nodes that is not the list of interfaces. -/
theorem node_addInterface_field {β : Type} (field : Node → β)
    (keeps : ∀ node interfaces, field { node with interfaces } = field node) (added : Interface)
    (id : NodeId) : field ((network.addInterface added).node id) = field (network.node id) := by
  unfold addInterface
  rw [node_updateNode_field _ fun node => keeps node _]
  rfl

/-- A new interface at a node of the network keeps it coherent. -/
theorem Coherent.addInterface (coherent : network.Coherent) {added : Interface}
    (inside : added.node < network.nodes.size) (neighbors : added.neighbors = {})
    (members : added.members = []) : (network.addInterface added).Coherent where
  interfaces := by
    rw [size_interfaces_addInterface]
    refine coherent.interfaces.push (fun id other => ?_) fun place => ?_
    · rw [interface_addInterface, if_neg other]
    · rw [ports_addInterface, interface_addInterface, if_pos rfl]
      by_cases here : place = added.node
      · rw [if_pos here, if_pos ⟨here.symm, here ▸ inside⟩]
      · rw [if_neg here, if_neg fun found => here found.1.symm]
  neighbors := by
    refine coherent.neighbors.congr rfl (fun _ => rfl) fun place => ?_
    unfold neighborsAt
    rw [interface_addInterface_field Interface.neighbors neighbors]
  members := by
    refine coherent.members.congr rfl (fun _ => rfl) fun scope => ?_
    cases scope with
    | node id => exact node_addInterface_field Node.members (fun _ _ => rfl) added id
    | interface id => exact interface_addInterface_field Interface.members members id
    | _ => rfl
  groups node group := by
    rw [node_addInterface_field Node.groups fun _ _ => rfl]
    exact coherent.groups node group

/-- A new connection without members keeps a network coherent. -/
theorem Coherent.addConnection (coherent : network.Coherent) {added : Connection}
    (members : added.members = []) : (network.addConnection added).Coherent := by
  have pushed : Coherent { network with connections := network.connections.push added } :=
    { coherent with
      members := by
        refine coherent.members.congr rfl (fun _ => rfl) fun scope => ?_
        cases scope with
        | connection id =>
          dsimp only [membersAt, connection]
          rw [getD_push]
          split
          case isTrue last =>
            rw [members, getD_of_size_le (Nat.le_of_eq last.symm)]
            rfl
          case isFalse => rfl
        | _ => rfl }
  refine Coherent.updateInterface ?_ (fun _ => rfl) (fun _ => rfl) fun _ => rfl
  exact pushed.updateInterface (fun _ => rfl) (fun _ => rfl) fun _ => rfl

/-- A new edge between nodes of the network keeps it coherent. -/
theorem Coherent.addEdge (coherent : network.Coherent) (edge : GraphEdge) {source target : NodeId}
    (sourceInside : source < network.nodes.size) (targetInside : target < network.nodes.size) :
    (network.addEdge edge source target).Coherent := by
  refine Coherent.addConnection (Coherent.addInterface ?_ ?_ rfl rfl) rfl
  · exact coherent.addInterface sourceInside rfl rfl
  · rw [size_nodes_addInterface]
    exact targetInside

/-- Changes of nodes one after the other are changes of the list of nodes. -/
theorem foldl_updateNode (change : Node → Node) (ids : List NodeId) :
    ids.foldl (fun current id => current.updateNode id change) network =
      { network with
        nodes := ids.foldl (fun nodes id => nodes.modify id change) network.nodes } := by
  induction ids generalizing network with
  | nil => rfl
  | cons id rest inductionHypothesis =>
    rw [List.foldl_cons, inductionHypothesis]
    rfl

/-- Entering a group at some nodes enters it once for each time that a node is listed. -/
theorem groups_foldl_modify {nodes : Array Node} {ids : List NodeId}
    (inside : ∀ id ∈ ids, id < nodes.size) (group : GroupId) (id : NodeId) :
    ((ids.foldl (fun nodes id => nodes.modify id fun node =>
      { node with groups := node.groups ++ [group] }) nodes).getD id default).groups =
      (nodes.getD id default).groups ++ List.replicate (ids.count id) group := by
  induction ids generalizing nodes with
  | nil => simp
  | cons first rest inductionHypothesis =>
    obtain ⟨firstInside, restInside⟩ := List.forall_mem_cons.mp inside
    rw [List.foldl_cons, inductionHypothesis (by simpa using restInside), getD_modify]
    by_cases here : first = id
    · subst here
      simp [firstInside, List.replicate_succ]
    · simp [here]

/-- A field of nodes that is not the list of groups. -/
theorem node_addGroup_field {β : Type} (field : Node → β)
    (keeps : ∀ node groups, field { node with groups } = field node) (added : Group)
    (id : NodeId) : field ((network.addGroup added).node id) = field (network.node id) := by
  unfold Network.addGroup
  dsimp only
  rw [foldl_updateNode]
  exact getD_foldl_modify_field (fun id => id) _ network.nodes field (fun _ node => keeps node _)
    added.nodes default id

/-- A new group of nodes of the network keeps it coherent. -/
theorem Coherent.addGroup (coherent : network.Coherent) {group : Group}
    (inside : ∀ id ∈ group.nodes, id < network.nodes.size) :
    (network.addGroup group).Coherent := by
  have field {β : Type} (field : Node → β)
      (keeps : ∀ node groups, field { node with groups } = field node) (id : NodeId) :
      field ((network.addGroup group).node id) = field (network.node id) :=
    node_addGroup_field field keeps group id
  unfold Network.addGroup at field ⊢
  dsimp only at field ⊢
  rw [foldl_updateNode] at field ⊢
  refine { coherent with interfaces := ?_, members := ?_, groups := ?_ }
  · exact coherent.interfaces.congr rfl (fun _ => rfl) (field Node.interfaces fun _ _ => rfl)
  · refine coherent.members.congr rfl (fun _ => rfl) fun scope => ?_
    cases scope with
    | node id => exact field Node.members (fun _ _ => rfl) id
    | _ => rfl
  · intro id other
    have before := coherent.groups id other
    dsimp only [Network.node, Network.group] at before ⊢
    rw [groups_foldl_modify inside, List.count_append, List.count_replicate, before, getD_push]
    by_cases last : other = network.groups.size
    · have absent : network.groups.getD other default = default :=
        getD_of_size_le (Nat.le_of_eq last.symm)
      rw [absent, last]
      simp
      rfl
    · simp [last, Ne.symm last]

/-- A new member is entered at its referrer. -/
theorem membersAt_addMember {added : Member}
    (inside : added.referrer ∈ Membership.referrers network) (scope : Scope) :
    (network.addMember added).membersAt scope =
      if scope = added.referrer then network.membersAt scope ++ [network.members.size]
      else network.membersAt scope := by
  simp only [Membership.referrers, List.mem_append, List.mem_map, nodeIds, interfaceIds,
    connectionIds, List.mem_range] at inside
  unfold Network.addMember
  dsimp only
  rcases inside with (⟨id, below, same⟩ | ⟨id, below, same⟩) | ⟨id, below, same⟩ <;> rw [← same]
  · cases scope with
    | node other =>
      simp only [Scope.node.injEq]
      exact list_getD_modify Node.members (fun _ => rfl) below other default
    | _ => exact (if_neg Scope.noConfusion).symm
  · cases scope with
    | interface other =>
      simp only [Scope.interface.injEq]
      exact list_getD_modify Interface.members (fun _ => rfl) below other default
    | _ => exact (if_neg Scope.noConfusion).symm
  · cases scope with
    | connection other =>
      simp only [Scope.connection.injEq]
      exact list_getD_modify Connection.members (fun _ => rfl) below other default
    | _ => exact (if_neg Scope.noConfusion).symm

/-- A field of nodes that is not the list of members. -/
theorem node_addMember_field {β : Type} (field : Node → β)
    (keeps : ∀ node members, field { node with members } = field node) (added : Member)
    (id : NodeId) : field ((network.addMember added).node id) = field (network.node id) := by
  unfold Network.addMember
  dsimp only
  split
  · exact node_updateNode_field _ (fun node => keeps node _) _ id
  all_goals rfl

/-- A field of interfaces that is not the list of members. -/
theorem interface_addMember_field {β : Type} (field : Interface → β)
    (keeps : ∀ interface members, field { interface with members } = field interface)
    (added : Member) (id : InterfaceId) :
    field ((network.addMember added).interface id) = field (network.interface id) := by
  unfold Network.addMember
  dsimp only
  split
  case h_2 => exact interface_updateInterface_field _ (fun interface => keeps interface _) _ id
  all_goals rfl

/-- A field of connections that is not the list of members. -/
theorem connection_addMember_field {β : Type} (field : Connection → β)
    (keeps : ∀ connection members, field { connection with members } = field connection)
    (added : Member) (id : ConnectionId) :
    field ((network.addMember added).connection id) = field (network.connection id) := by
  unfold Network.addMember
  dsimp only
  split
  case h_3 => exact connection_updateConnection_field _ (fun connection => keeps connection _) _ id
  all_goals rfl

/-- A new member is the last of the arena. -/
theorem members_addMember (added : Member) :
    (network.addMember added).members = network.members.push added := by
  unfold Network.addMember
  dsimp only
  split <;> rfl

theorem neighbors_addMember (added : Member) :
    (network.addMember added).neighbors = network.neighbors := by
  unfold Network.addMember
  dsimp only
  split <;> rfl

theorem groups_addMember (added : Member) : (network.addMember added).groups = network.groups := by
  unfold Network.addMember
  dsimp only
  split <;> rfl

/-- A new member of a referrer of the network keeps it coherent. -/
theorem Coherent.addMember (coherent : network.Coherent) {added : Member}
    (inside : added.referrer ∈ Membership.referrers network) :
    (network.addMember added).Coherent where
  interfaces := by
    have same := network.sameShape_addMember added
    exact coherent.interfaces.congr same.interfaceCount same.node same.ports
  neighbors := by
    unfold neighbor
    rw [neighbors_addMember]
    refine coherent.neighbors.congr rfl (fun _ => rfl) fun place => ?_
    unfold neighborsAt
    rw [interface_addMember_field Interface.neighbors fun _ _ => rfl]
  members := by
    unfold member
    rw [members_addMember, Array.size_push]
    refine coherent.members.push (fun id other => ?_) fun scope => ?_
    · rw [getD_push, if_neg other]
      rfl
    · rw [membersAt_addMember inside, getD_push, if_pos rfl]
  groups node group := by
    rw [node_addMember_field Node.groups fun _ _ => rfl, Network.group, groups_addMember]
    exact coherent.groups node group

end Adding

/-- What is known of a network of so many nodes and of its lists before segments are
searched. -/
structure Assembled (count : Nat) (network : Network) : Prop extends Prepared count network where
  coherent : network.Coherent
  unsearched : network.neighbors = #[]

/-- Before there are edges all lists are empty. -/
theorem assembled_of_nodes (given : List GraphNode) (classes : List String)
    (parameters : Parameters) :
    Assembled given.length { nodes := (given.map nodeOf).toArray, classes, parameters } where
  toPrepared := prepared_of_nodes given classes parameters
  unsearched := rfl
  coherent :=
    { interfaces := .of_empty
        (node_of_nodes Node.interfaces given classes parameters rfl fun _ => rfl)
      neighbors := .of_empty fun _ => rfl
      members := .of_empty fun scope => by
        cases scope with
        | node id => exact node_of_nodes Node.members given classes parameters rfl (fun _ => rfl) id
        | _ => rfl
      groups := fun node group => by
        rw [node_of_nodes Node.groups given classes parameters rfl fun _ => rfl]
        rfl }

/-- Objects are in the lists of their owners in the network of a topology. -/
theorem assembled_of_ofTopology {config : Config} {topology : Topology} {built : Network}
    (made : ofTopology config topology = .ok built) : built.Assembled topology.nodes.length := by
  refine ofTopology_induction made (assembled_of_nodes topology.nodes _) ?_ ?_
  · intro network edge source target sourceInside targetInside assembled
    refine ⟨assembled.addEdge edge sourceInside targetInside, ?_, assembled.unsearched⟩
    rw [← assembled.nodeCount] at sourceInside targetInside
    exact assembled.coherent.addEdge edge sourceInside targetInside
  · intro network given nodes inside assembled
    rw [← assembled.nodeCount] at inside
    refine ⟨assembled.addGroup _, assembled.coherent.addGroup inside, ?_⟩
    unfold Network.addGroup
    dsimp only
    rw [foldl_updateNode]
    exact assembled.unsearched

/-- That no neighbor has been searched survives every step of resolution. -/
theorem unsearched_tolerant :
    (Frame.ofInvariant fun network => network.neighbors = #[]).Tolerant where
  node _ _ _ _ := id
  interface _ _ _ _ := id
  connection _ _ _ _ := id
  group _ _ _ _ := id
  enter network kind className scope unsearched := by
    unfold Network.enter
    split <;> exact unsearched
  parameters _ _ := id

/-- Resolution keeps objects in the lists of their owners. -/
theorem assembled_durable {count : Nat} : Durable count (Assembled count) where
  tolerant := by
    have prepared : (Frame.ofInvariant (Prepared count)).Tolerant := prepared_durable.tolerant
    refine (prepared.and (coherent_tolerant.and unsearched_tolerant)).mono ?_
    intro before after keeps assembled
    obtain ⟨prepared, coherent, unsearched⟩ :=
      keeps ⟨assembled.toPrepared, assembled.coherent, assembled.unsearched⟩
    exact ⟨prepared, coherent, unsearched⟩
  nodeCount _ assembled := assembled.nodeCount
  management network node name className inside assembled := by
    refine ⟨prepared_durable.management network node name className inside assembled.toPrepared, ?_,
      assembled.unsearched⟩
    rw [← assembled.nodeCount] at inside
    refine Coherent.updateNode ?_ (fun _ => rfl) (fun _ => rfl) fun _ => rfl
    exact assembled.coherent.addInterface inside rfl rfl
  member network member inside entered assembled :=
    ⟨prepared_durable.member network member inside entered assembled.toPrepared,
      assembled.coherent.addMember inside,
      (neighbors_addMember member).trans assembled.unsearched⟩

/-- Objects are in the lists of their owners in a resolved network. -/
theorem assembled_of_resolve {config : Config} {topology : Topology} {extra : ExtraClasses}
    {built resolved : Network} (made : ofTopology config topology = .ok built)
    (run : (resolve config extra).outcome built = (.ok (), resolved)) :
    resolved.Assembled topology.nodes.length :=
  assembled_durable.of_resolve run (assembled_of_ofTopology made)

end Network

end TopoPlan
