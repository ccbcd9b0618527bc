import TopoPlan.Proofs.Address.Digits
import TopoPlan.Proofs.Dependency.NumberedGraphs
import TopoPlan.Proofs.Network.ChildClasses

/-!
# The order of all objects

Objects are sorted so that each comes after the objects below it.  The ids of the sort
tell the objects of a list apart, and ranks fall along all dependencies, so the sort
always succeeds.  The main statement, `exists_objectOrder`, says what the order of a
searched network promises.
-/

namespace TopoPlan

namespace ScopeOrder

open DependencyGraph Network

/-- Different positions have different identifiers. -/
theorem idAt_inj {left right : Nat} (same : idAt left = idAt right) : left = right :=
  Numeral.text_inj (Text.append_inj_right same)

section Graph

variable {network : Network} {scopes : List Scope} {scope child : Scope} {position : Nat}

/-- A position that was found is one of the object. -/
theorem mem_zipIdx_of_position? (found : position? scopes scope = some position) :
    (scope, position) ∈ scopes.zipIdx := by
  obtain ⟨entry, look, rfl⟩ := Option.map_eq_some_iff.mp found
  have same : entry.1 = scope := by simpa using List.find?_some look
  rw [← same]
  exact List.mem_reverse.mp (List.mem_of_find?_eq_some look)

/-- The objects of a list have positions. -/
theorem exists_position? (listed : scope ∈ scopes) :
    ∃ position, position? scopes scope = some position := by
  obtain ⟨position, below, same⟩ := List.mem_iff_getElem.mp listed
  have entry : (scope, position) ∈ scopes.zipIdx.reverse := by
    rw [List.mem_reverse, List.mk_mem_zipIdx_iff_getElem?, List.getElem?_eq_getElem below, same]
  have some : (scopes.zipIdx.reverse.find? fun entry => entry.1 = scope).isSome := by
    rw [List.find?_isSome]
    exact ⟨_, entry, by simp⟩
  obtain ⟨found, look⟩ := Option.isSome_iff_exists.mp some
  exact ⟨found.2, by rw [position?, look, Option.map_some]⟩

/-- The vertex of an entry of a list. -/
def vertexOf (network : Network) (scopes : List Scope) (scope : Scope) : Vertex Scope :=
  { item := scope
    dependencies := (before network scope).map fun found =>
      (found.filterMap (position? scopes)).map idAt }

/-- The graph holds the vertex of every scope at its position. -/
theorem getElem?_graph (listed : (scope, position) ∈ scopes.zipIdx) :
    (graph network scopes)[idAt position]? = some (vertexOf network scopes scope) :=
  getElem?_numbered (fun scope _ => vertexOf network scopes scope)
    (fun _ _ => idAt_inj) (List.mk_mem_zipIdx_iff_getElem?.mp listed)

/-- Every vertex is the one of an entry of the list. -/
theorem exists_entry {id : String} {vertex : Vertex Scope}
    (found : (graph network scopes)[id]? = some vertex) :
    ∃ scope position, (scope, position) ∈ scopes.zipIdx ∧ id = idAt position ∧
      vertex = vertexOf network scopes scope := by
  obtain ⟨position, scope, listed, same, made⟩ := exists_entry_of_numbered
    (fun scope _ => vertexOf network scopes scope) found
  exact ⟨scope, position, List.mk_mem_zipIdx_iff_getElem?.mpr listed, same, made⟩

/-- Every scope has a vertex in the graph. -/
theorem mem_graph (listed : (scope, position) ∈ scopes.zipIdx) :
    idAt position ∈ graph network scopes := by
  rw [Std.ExtTreeMap.mem_iff_isSome_getElem?, getElem?_graph listed]
  rfl

/-- What an entry of the list depends on are the last positions of the objects of the
list that are below it. -/
theorem depends_idAt_iff (listed : (scope, position) ∈ scopes.zipIdx) {dependency : String} :
    (graph network scopes).Depends (idAt position) dependency ↔
      ∃ other, (∃ child, network.ChildOf child scope ∧ position? scopes child = some other) ∧
        idAt other = dependency := by
  obtain ⟨found, told, children⟩ := exists_before network scope
  have tells : (vertexOf network scopes scope).dependencies =
      .ok ((found.filterMap (position? scopes)).map idAt) := by
    rw [vertexOf, told]
    rfl
  rw [depends_iff (getElem?_graph listed) tells]
  simp only [List.mem_map, List.mem_filterMap, children]

/-- A dependency leads from an object of the list to one below it. -/
theorem exists_child_of_depends {id dependency : String}
    (depends : (graph network scopes).Depends id dependency) :
    ∃ scope position child other, (scope, position) ∈ scopes.zipIdx ∧ id = idAt position ∧
      (child, other) ∈ scopes.zipIdx ∧ dependency = idAt other ∧ network.ChildOf child scope := by
  have found := Std.ExtTreeMap.mem_iff_isSome_getElem?.mp (mem_of_depends depends)
  obtain ⟨vertex, look⟩ := Option.isSome_iff_exists.mp found
  obtain ⟨scope, position, listed, rfl, _⟩ := exists_entry look
  obtain ⟨other, ⟨child, childOf, at?⟩, rfl⟩ := (depends_idAt_iff listed).mp depends
  exact ⟨scope, position, child, other, listed, rfl, mem_zipIdx_of_position? at?, rfl, childOf⟩

/-- Whatever the list, its objects can be sorted. -/
theorem exists_order (network : Network) (scopes : List Scope) :
    ∃ order, ScopeOrder.order network scopes = .ok order := by
  let rank (id : String) : Nat := ((graph network scopes)[id]?.map (·.item.rank)).getD 0
  have rank_idAt {scope position} (listed : (scope, position) ∈ scopes.zipIdx) :
      rank (idAt position) = scope.rank := by
    dsimp only [rank]
    rw [getElem?_graph listed]
    rfl
  refine exists_sort (told_ofList fun entry member => ?_) (fun id dependency depends => ?_)
    (acyclic_of_rank rank fun id dependency depends => ?_)
  · obtain ⟨⟨scope, position⟩, _, rfl⟩ := List.mem_map.mp member
    obtain ⟨found, told, _⟩ := exists_before network scope
    exact ⟨_, Outcome.map_eq_ok.mpr ⟨found, told, rfl⟩⟩
  · obtain ⟨_, _, _, _, _, _, listed, rfl, _⟩ := exists_child_of_depends depends
    exact mem_graph listed
  · obtain ⟨scope, _, child, _, listed, rfl, childListed, rfl, childOf⟩ :=
      exists_child_of_depends depends
    rw [rank_idAt listed, rank_idAt childListed]
    exact childOf.rank_lt

variable {order : List Scope}

/-- An order consists of the objects of the list. -/
theorem order_perm (run : ScopeOrder.order network scopes = .ok order) : order.Perm scopes := by
  obtain ⟨ids, dependencyOrder, itemsOf⟩ := exists_order_of_sort run
  have same : ids.Perm (scopes.zipIdx.map fun entry => idAt entry.2) := by
    have numbers := DependencyOrder.perm_numbers
      (fun scope _ => vertexOf network scopes scope) (fun _ _ => idAt_inj) dependencyOrder
    rw [List.range_eq_range', ← List.zipIdx_map_snd, List.map_map] at numbers
    exact numbers
  have items : (scopes.zipIdx.map fun entry => idAt entry.2).filterMap
      (fun id => (graph network scopes)[id]?.map (·.item)) = scopes := by
    rw [List.filterMap_map]
    have each : ∀ entry ∈ scopes.zipIdx,
        ((graph network scopes)[idAt entry.2]?.map (·.item)) = some entry.1 := by
      rintro ⟨scope, position⟩ listed
      rw [getElem?_graph listed]
      rfl
    refine (List.filterMap_congr each).trans ?_
    rw [List.filterMap_eq_map', List.zipIdx_map_fst]
  rw [itemsOf.eq_filterMap]
  exact (same.filterMap _).trans (.of_eq items)

/-- In an order every object comes after the objects of the list that are below it. -/
theorem precedes_of_childOf (run : ScopeOrder.order network scopes = .ok order)
    (childOf : network.ChildOf child scope) (childListed : child ∈ scopes)
    (listed : scope ∈ scopes) : Precedes order child scope := by
  obtain ⟨ids, dependencyOrder, itemsOf⟩ := exists_order_of_sort run
  obtain ⟨other, childAt⟩ := exists_position? childListed
  obtain ⟨position, at?⟩ := exists_position? listed
  have entry := mem_zipIdx_of_position? at?
  have childEntry := mem_zipIdx_of_position? childAt
  have depends : (graph network scopes).Depends (idAt position) (idAt other) :=
    (depends_idAt_iff entry).mpr ⟨other, ⟨child, childOf, childAt⟩, rfl⟩
  have precedes := dependencyOrder.ordered _ _ depends
  rw [itemsOf.eq_filterMap]
  refine precedes.filterMap ?_ ?_
  · rw [getElem?_graph childEntry]
    rfl
  · rw [getElem?_graph entry]
    rfl

end Graph

end ScopeOrder

namespace Network

/-- The network has an object. -/
def Has (network : Network) : Scope → Prop
  | .network => True
  | .node id => id < network.nodes.size
  | .interface id => id < network.interfaces.size
  | .connection id => id < network.connections.size
  | .group id => id < network.groups.size
  | .segment id => id < network.segments.size
  | .neighbor id => id < network.neighbors.size
  | .member id => id < network.members.size

instance (network : Network) (scope : Scope) : Decidable (network.Has scope) := by
  cases scope <;> unfold Has <;> infer_instance

section Scopes

variable {network : Network} {scope : Scope}

/-- Neighbors are listed at their interface, under their layer. -/
theorem Coherent.mem_neighbors (coherent : network.Coherent) {port : InterfaceId} {layer : String}
    {id : NeighborId} : id ∈ (network.interface port).neighbors.getD layer [] ↔
      id < network.neighbors.size ∧ (network.neighbor id).self = port ∧
        (network.neighbor id).layer = layer := by
  change id ∈ network.neighborsAt (port, layer) ↔ _
  rw [coherent.neighbors.mem_iff, Prod.mk.injEq]

/-- An interface and its neighbors. -/
theorem Coherent.mem_interfaceScopes (coherent : network.Coherent) {port : InterfaceId} :
    scope ∈ network.interfaceScopes port ↔ scope = .interface port ∨
      ∃ id, id < network.neighbors.size ∧ (network.neighbor id).self = port ∧
        scope = .neighbor id := by
  have listed : ∀ id, id ∈ (network.interface port).neighbors.values.flatten ↔
      id < network.neighbors.size ∧ (network.neighbor id).self = port := by
    intro id
    rw [Table.mem_flatten_values]
    simp [coherent.mem_neighbors]
  simp only [interfaceScopes, List.mem_cons, List.mem_map, listed]
  simp [and_assoc, eq_comm]

/-- A node with its interfaces and their neighbors. -/
theorem Coherent.mem_nodeScopes (coherent : network.Coherent) {id : NodeId} :
    scope ∈ network.nodeScopes id ↔ scope = .node id ∨
      (∃ port, port < network.interfaces.size ∧ (network.interface port).node = id ∧
        scope ∈ network.interfaceScopes port) := by
  have ports : ∀ port, port ∈ (network.node id).interfaces ↔
      port < network.interfaces.size ∧ (network.interface port).node = id :=
    fun _ => coherent.interfaces.mem_iff
  simp [nodeScopes, ports, and_assoc]

/-- No scope of an interface is listed twice. -/
theorem Coherent.nodup_interfaceScopes (coherent : network.Coherent) (port : InterfaceId) :
    (network.interfaceScopes port).Nodup := by
  refine List.nodup_cons.mpr ⟨by simp, List.Nodup.map (fun _ _ => Scope.neighbor.inj) ?_⟩
  refine Table.nodup_flatten_values (fun layer => coherent.neighbors.nodup (port, layer)) ?_
  intro left right different id inLeft inRight
  obtain ⟨_, _, atLeft⟩ := coherent.mem_neighbors.mp inLeft
  obtain ⟨_, _, atRight⟩ := coherent.mem_neighbors.mp inRight
  exact different (atLeft.symm.trans atRight)

/-- The objects at an interface tell which interface it is. -/
theorem Coherent.eq_of_mem_interfaceScopes (coherent : network.Coherent)
    {left right : InterfaceId} (inLeft : scope ∈ network.interfaceScopes left)
    (inRight : scope ∈ network.interfaceScopes right) : left = right := by
  rw [coherent.mem_interfaceScopes] at inLeft inRight
  rcases inLeft with rfl | ⟨id, _, rfl, rfl⟩
  · simpa using inRight
  · obtain ⟨_, same⟩ : id < network.neighbors.size ∧ (network.neighbor id).self = right := by
      simpa using inRight
    exact same

/-- No scope of a node is listed twice. -/
theorem Coherent.nodup_nodeScopes (coherent : network.Coherent) (id : NodeId) :
    (network.nodeScopes id).Nodup := by
  refine List.nodup_cons.mpr ⟨?_, List.nodup_flatMap.mpr
    ⟨fun port _ => coherent.nodup_interfaceScopes port, ?_⟩⟩
  · simp [coherent.mem_interfaceScopes]
  · refine (coherent.interfaces.nodup id).imp fun different scope inLeft inRight => ?_
    exact different (coherent.eq_of_mem_interfaceScopes inLeft inRight)

/-- The objects at a node tell which node it is. -/
theorem Coherent.eq_of_mem_nodeScopes (coherent : network.Coherent) {left right : NodeId}
    (inLeft : scope ∈ network.nodeScopes left) (inRight : scope ∈ network.nodeScopes right) :
    left = right := by
  rw [coherent.mem_nodeScopes] at inLeft inRight
  rcases inLeft with rfl | ⟨port, _, rfl, inLeft⟩
  · simpa [coherent.mem_interfaceScopes] using inRight
  · rcases inRight with rfl | ⟨other, _, rfl, inRight⟩
    · simp [coherent.mem_interfaceScopes] at inLeft
    · rw [coherent.eq_of_mem_interfaceScopes inLeft inRight]

/-- No scope of a coherent network is listed twice. -/
theorem Coherent.nodup_scopes (coherent : network.Coherent) : network.scopes.Nodup := by
  have nodes : (network.nodeIds.flatMap network.nodeScopes).Nodup := by
    refine List.nodup_flatMap.mpr ⟨fun id _ => coherent.nodup_nodeScopes id, ?_⟩
    refine List.nodup_range.imp fun different scope inLeft inRight => ?_
    exact different (coherent.eq_of_mem_nodeScopes inLeft inRight)
  have connections : (network.connectionIds.map Scope.connection).Nodup :=
    List.nodup_range.map fun _ _ => Scope.connection.inj
  have segments : (network.segmentIds.map Scope.segment).Nodup :=
    List.nodup_range.map fun _ _ => Scope.segment.inj
  have members : (network.memberIds.map Scope.member).Nodup :=
    List.nodup_range.map fun _ _ => Scope.member.inj
  have groups : (network.groupIds.map Scope.group).Nodup :=
    List.nodup_range.map fun _ _ => Scope.group.inj
  simp only [scopes, List.nodup_append, List.nodup_cons]
  refine ⟨⟨⟨⟨⟨?_, nodes⟩, connections, ?_⟩, segments, ?_⟩, members, ?_⟩, groups, ?_⟩
  · simp [coherent.mem_nodeScopes, coherent.mem_interfaceScopes]
  all_goals
    rintro _ earlier _ later rfl
    obtain ⟨_, _, rfl⟩ := List.mem_map.mp later
    simp [coherent.mem_nodeScopes, coherent.mem_interfaceScopes] at earlier

/-- A node that has interfaces exists. -/
theorem Coherent.node_lt (coherent : network.Coherent) {port : InterfaceId}
    (inside : port < network.interfaces.size) :
    (network.interface port).node < network.nodes.size :=
  lt_size_of_mem Node.interfaces (coherent.interfaces.mem_iff.mpr ⟨inside, rfl⟩) rfl

/-- An interface that has neighbors exists. -/
theorem Coherent.self_lt (coherent : network.Coherent) {id : NeighborId}
    (inside : id < network.neighbors.size) :
    (network.neighbor id).self < network.interfaces.size :=
  lt_size_of_mem (fun interface => interface.neighbors.getD (network.neighbor id).layer [])
    (coherent.mem_neighbors.mpr ⟨inside, rfl, rfl⟩) rfl

/-- An object that has members exists. -/
theorem has_of_mem_membersAt {id : MemberId} (listed : id ∈ network.membersAt scope) :
    network.Has scope := by
  cases scope with
  | node => exact lt_size_of_mem Node.members listed rfl
  | interface => exact lt_size_of_mem Interface.members listed rfl
  | connection => exact lt_size_of_mem Connection.members listed rfl
  | _ => cases listed

/-- The list of all objects has exactly the objects that there are. -/
theorem Coherent.mem_scopes (coherent : network.Coherent) :
    scope ∈ network.scopes ↔ network.Has scope := by
  cases scope with
  | interface id =>
    have node : id < network.interfaces.size → (network.interface id).node < network.nodes.size :=
      coherent.node_lt
    simpa [scopes, Has, coherent.mem_nodeScopes, coherent.mem_interfaceScopes, nodeIds] using node
  | neighbor id =>
    have self : id < network.neighbors.size →
        (network.neighbor id).self < network.interfaces.size :=
      coherent.self_lt
    have node : id < network.neighbors.size →
        (network.interface (network.neighbor id).self).node < network.nodes.size :=
      fun inside => coherent.node_lt (self inside)
    simp [scopes, Has, coherent.mem_nodeScopes, coherent.mem_interfaceScopes, nodeIds]
    exact ⟨fun found => found.2.2, fun inside => ⟨node inside, self inside, inside⟩⟩
  | _ =>
    simp [scopes, Has, coherent.mem_nodeScopes, coherent.mem_interfaceScopes, nodeIds,
      connectionIds, segmentIds, memberIds, groupIds]

/-- The network comes after the nodes, connections, groups and segments. -/
theorem childOf_network (has : network.Has scope) (ranked : 2 ≤ scope.rank)
    (different : scope ≠ .network) : network.ChildOf scope .network := by
  have key (kind : ClassKind) (listed : kind.name ∈ ["node", "group", "connection", "segment"]) :
      (ChildClass.kind kind).key ∈ network.dependencyClasses .network :=
    listed
  have member : ∀ {size : Nat} {id : Nat} (kind : Nat → Scope), id < size →
      kind id ∈ (List.range size).map kind :=
    fun _ inside => List.mem_map_of_mem (List.mem_range.mpr inside)
  cases scope with
  | node => exact ⟨.kind .node, key .node (by decide), _, rfl, member .node has⟩
  | connection =>
    exact ⟨.kind .connection, key .connection (by decide), _, rfl, member .connection has⟩
  | group => exact ⟨.kind .group, key .group (by decide), _, rfl, member .group has⟩
  | segment => exact ⟨.kind .segment, key .segment (by decide), _, rfl, member .segment has⟩
  | network => exact absurd rfl different
  | interface | neighbor | member => simp [Scope.rank] at ranked

end Scopes

/-- All objects, each once and after the objects that belong to it. -/
structure ObjectOrder (network : Network) (order : List Scope) : Prop where
  perm : order.Perm network.scopes
  once : order.Nodup
  complete : ∀ scope, scope ∈ order ↔ network.Has scope
  neighbors : ∀ id, id < network.neighbors.size →
    Precedes order (.neighbor id) (.interface (network.neighbor id).self)
  members : ∀ id, id < network.members.size →
    Precedes order (.member id) (network.member id).referrer
  nodes : ∀ id, id < network.interfaces.size →
    Precedes order (.interface id) (.node (network.interface id).node)
  connections : ∀ id connection, (network.interface id).connection = some connection →
    Precedes order (.interface id) (.connection connection)
  segmentConnections : ∀ id, ∀ connection ∈ (network.segment id).connections,
    Precedes order (.connection connection) (.segment id)
  segmentInterfaces : ∀ id, ∀ interface ∈ (network.segment id).interfaces,
    Precedes order (.interface interface) (.segment id)
  groups : ∀ id, ∀ group ∈ (network.node id).groups, Precedes order (.node id) (.group group)
  last : order.getLast? = some .network

section Order

variable {network : Network} {order : List Scope} (consistent : network.Consistent)
  (run : ScopeOrder.order network network.scopes = .ok order)

include consistent run

/-- No scope stands in the order twice. -/
theorem nodup_order : order.Nodup :=
  (ScopeOrder.order_perm run).nodup_iff.mpr consistent.coherent.nodup_scopes

/-- The order holds exactly the objects of the network. -/
theorem mem_order (scope : Scope) : scope ∈ order ↔ network.Has scope := by
  rw [(ScopeOrder.order_perm run).mem_iff, consistent.coherent.mem_scopes]

/-- Children precede what they are children of. -/
theorem precedes_of_childOf {child scope : Scope} (childOf : network.ChildOf child scope)
    (childHas : network.Has child) (has : network.Has scope) : Precedes order child scope :=
  ScopeOrder.precedes_of_childOf run childOf (consistent.coherent.mem_scopes.mpr childHas)
    (consistent.coherent.mem_scopes.mpr has)

/-- Neighbors precede their interface. -/
theorem neighbor_precedes {id : NeighborId} (inside : id < network.neighbors.size) :
    Precedes order (.neighbor id) (.interface (network.neighbor id).self) :=
  precedes_of_childOf consistent run (consistent.childOf_self inside) inside
    (consistent.coherent.self_lt inside)

/-- Members precede their referrer. -/
theorem member_precedes {id : MemberId} (inside : id < network.members.size) :
    Precedes order (.member id) (network.member id).referrer :=
  precedes_of_childOf consistent run (consistent.coherent.childOf_referrer inside) inside
    (has_of_mem_membersAt (consistent.coherent.members.mem_iff.mpr ⟨inside, rfl⟩))

/-- Interfaces precede their node. -/
theorem interface_precedes_node {id : InterfaceId} (inside : id < network.interfaces.size) :
    Precedes order (.interface id) (.node (network.interface id).node) :=
  precedes_of_childOf consistent run
    (childOf_node (consistent.coherent.interfaces.mem_iff.mpr ⟨inside, rfl⟩)) inside
    (consistent.coherent.node_lt inside)

/-- Interfaces precede their connection. -/
theorem interface_precedes_connection {id : InterfaceId} {connection : ConnectionId}
    (link : (network.interface id).connection = some connection) :
    Precedes order (.interface id) (.connection connection) := by
  obtain ⟨inside, isEnd⟩ := consistent.linked.links id connection link
  exact precedes_of_childOf consistent run (childOf_connection isEnd)
    (consistent.linked.ends connection inside id isEnd).1 inside

/-- Connections precede their segments. -/
theorem connection_precedes_segment {id : SegmentId} {connection : ConnectionId}
    (listed : connection ∈ (network.segment id).connections) :
    Precedes order (.connection connection) (.segment id) := by
  have inside : id < network.segments.size := lt_size_of_mem Segment.connections listed rfl
  have bounded := consistent.bounded _ (outline_mem_outlines inside)
  exact precedes_of_childOf consistent run (childOf_segment_of_connection listed)
    (bounded.connections connection listed) inside

/-- Interfaces precede their segments. -/
theorem interface_precedes_segment {id : SegmentId} {interface : InterfaceId}
    (listed : interface ∈ (network.segment id).interfaces) :
    Precedes order (.interface interface) (.segment id) := by
  have inside : id < network.segments.size := lt_size_of_mem Segment.interfaces listed rfl
  have bounded := consistent.bounded _ (outline_mem_outlines inside)
  exact precedes_of_childOf consistent run (childOf_segment_of_interface listed)
    (bounded.interfaces interface listed) inside

/-- Nodes precede their groups. -/
theorem node_precedes_group {id : NodeId} {group : GroupId}
    (listed : group ∈ (network.node id).groups) : Precedes order (.node id) (.group group) := by
  have count := consistent.coherent.groups id group
  have member : id ∈ (network.group group).nodes := by
    rw [← List.count_pos_iff, ← count, List.count_pos_iff]
    exact listed
  exact precedes_of_childOf consistent run (childOf_group member)
    (lt_size_of_mem Node.groups listed rfl) (lt_size_of_mem Group.nodes member rfl)

/-- Every other object comes before the network, if need be through the object that it
belongs to. -/
theorem precedes_network {scope : Scope} (has : network.Has scope) (different : scope ≠ .network) :
    Precedes order scope .network := by
  have once := nodup_order consistent run
  have top (scope : Scope) (has : network.Has scope) (ranked : 2 ≤ scope.rank)
      (different : scope ≠ .network) : Precedes order scope .network :=
    precedes_of_childOf consistent run (childOf_network has ranked different) has trivial
  have ofInterface {id : InterfaceId} (inside : id < network.interfaces.size) :
      Precedes order (.interface id) .network :=
    (interface_precedes_node consistent run inside).trans once
      (top (.node _) (consistent.coherent.node_lt inside) (Nat.le_refl 2) Scope.noConfusion)
  cases scope with
  | network => exact absurd rfl different
  | node | connection => exact top _ has (Nat.le_refl 2) different
  | group | segment => exact top _ has (Nat.le_succ 2) different
  | interface => exact ofInterface has
  | neighbor =>
    exact (neighbor_precedes consistent run has).trans once
      (ofInterface (consistent.coherent.self_lt has))
  | member id =>
    refine (member_precedes consistent run has).trans once ?_
    have listed : id ∈ network.membersAt (network.member id).referrer :=
      consistent.coherent.members.mem_iff.mpr ⟨has, rfl⟩
    generalize (network.member id).referrer = referrer at listed
    have referrerHas := has_of_mem_membersAt listed
    cases referrer with
    | node | connection => exact top _ referrerHas (Nat.le_refl 2) Scope.noConfusion
    | interface => exact ofInterface referrerHas
    | _ => cases listed

/-- The order of the objects of a network with consistent references. -/
theorem objectOrder_of_order : network.ObjectOrder order where
  perm := ScopeOrder.order_perm run
  once := nodup_order consistent run
  complete := mem_order consistent run
  neighbors _ := neighbor_precedes consistent run
  members _ := member_precedes consistent run
  nodes _ := interface_precedes_node consistent run
  connections _ _ := interface_precedes_connection consistent run
  segmentConnections _ _ := connection_precedes_segment consistent run
  segmentInterfaces _ _ := interface_precedes_segment consistent run
  groups _ _ := node_precedes_group consistent run
  last :=
    getLast?_eq_of_precedes (nodup_order consistent run)
      ((mem_order consistent run .network).mpr trivial) fun scope listed different =>
        precedes_network consistent run ((mem_order consistent run scope).mp listed) different

end Order

/-- The objects of a searched network can be sorted, and each then comes after those that
belong to it. -/
theorem exists_objectOrder {config : Config} {network : Network}
    (searched : Searched config network) :
    ∃ order, ScopeOrder.order network network.scopes = .ok order ∧ network.ObjectOrder order := by
  obtain ⟨order, run⟩ := ScopeOrder.exists_order network network.scopes
  exact ⟨order, run, objectOrder_of_order (consistent_of_searched searched) run⟩

end Network

namespace Office

open Network

/-- Hosts have all hosts as members, and interfaces ask for neighbors. -/
def config : Config where
  name := "office"
  layers := [{ name := "ip"
               connectsByDefault := true
               policies := [{ name := "lan", range := "10.0.0.0/16", subnetLength := 24 }] }]
  nodeClasses := [{ name := "host", interfacePolicies := ["lan"], members := [{ node := "host" }] }]
  interfaceClasses := [{ name := "all", neighbors := [{ layer := "ip" }] }]
  groupClasses := [{ name := "site" }]

/-- Two linked hosts of one group.  The first publishes its parameters. -/
def topology : Topology where
  nodes := [{ name := "a", labels := ["host", "@core", "rack=1"] },
    { name := "b", labels := ["host", "@main=core", "rack=2", "site_rack=4"] }]
  edges := [{ source := "a", target := "b" }]
  groups := [{ name := "g", labels := ["site", "rack=3"], nodes := ["a", "b"] }]

/-- The network of the topology. -/
def built : Network := (ofTopology config topology).toOption.getD {}

/-- The network after resolution. -/
def resolved : Network := ((resolve config {}).outcome built).2

/-- The network with its segments. -/
def searched : Network := ((Segments.addAll config).outcome resolved).2

/-- The topology is searched without error. -/
theorem searched_of_topology : Searched config searched :=
  ⟨topology, {}, built, resolved, Outcome.eq_ok_of_isOk {} (by decide +kernel),
    Stage.outcome_eq_ok (by decide +kernel), Stage.outcome_eq_ok (by decide +kernel)⟩

/-- Each host is a member of the other one, and each interface a neighbor of the other
one. -/
theorem exists_objectOrder_of_hosts :
    Searched config searched ∧ searched.members.size = 2 ∧ searched.neighbors.size = 2 ∧
      (searched.node 0).groups = [0] ∧
      ∃ order, ScopeOrder.order searched searched.scopes = .ok order ∧ searched.ObjectOrder order :=
  ⟨searched_of_topology, by decide +kernel, by decide +kernel, by decide +kernel,
    exists_objectOrder searched_of_topology⟩

end Office

end TopoPlan
