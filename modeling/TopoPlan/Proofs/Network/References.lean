import TopoPlan.Proofs.Network.ClassRecords
import TopoPlan.Proofs.Network.ObjectOrder
import TopoPlan.Proofs.Network.SearchedObjects
import TopoPlan.Rule.Attachment

/-!
# References between objects

Objects refer to each other by position, and most references are kept on both sides.
`WellFormed` says what holds of all of them together.  It follows from `Intact`, which
is put in the form that the changes of a network keep: `Intact.congr` is for changes
that leave all references alone, and there is one lemma for each way to add an object.
-/

namespace TopoPlan

/-- What a node refers to, without attachments. -/
def Node.references (node : Node) :=
  (node.interfaces, node.groups, node.managementInterface, node.members)

/-- What an interface refers to, without attachments. -/
def Interface.references (interface : Interface) :=
  (interface.node, interface.connection, interface.neighbors, interface.members)

/-- What a connection refers to, without attachments. -/
def Connection.references (connection : Connection) :=
  (connection.source, connection.target, connection.members)

/-- What a segment refers to, without attachments. -/
def Segment.references (segment : Segment) :=
  (segment.interfaces, segment.connections)

/-- What a neighbor refers to, and the layer under which it is listed. -/
def Neighbor.references (neighbor : Neighbor) :=
  (neighbor.self, neighbor.peer, neighbor.layer)

/-- What a member refers to. -/
def Member.references (member : Member) :=
  (member.referrer, member.member)

namespace Network

/-- The attachment at a position. -/
def attachment (network : Network) (id : AttachmentId) : Attachment :=
  network.attachments.getD id default

/-- The attachments entered at an object. -/
def attachmentsAt (network : Network) : Scope → List AttachmentId
  | .node id => (network.node id).attachments
  | .interface id => (network.interface id).attachments
  | .connection id => (network.connection id).attachments
  | .group id => (network.group id).attachments
  | .segment id => (network.segment id).attachments
  | _ => []

/-- The objects to which an object refers.  The network refers to those of its index. -/
def referredBy (network : Network) : Scope → List Scope
  | .network => network.classIndex.map (·.2.2)
  | .node id =>
    let node := network.node id
    node.interfaces.map .interface ++ node.groups.map .group ++
      node.managementInterface.toList.map .interface ++ node.members.map .member
  | .interface id =>
    let interface := network.interface id
    .node interface.node :: interface.connection.toList.map .connection ++
      interface.neighbors.values.flatten.map .neighbor ++ interface.members.map .member
  | .connection id =>
    let connection := network.connection id
    .interface connection.source :: .interface connection.target ::
      connection.members.map .member
  | .group id => (network.group id).nodes.map .node
  | .segment id =>
    let segment := network.segment id
    segment.interfaces.map .interface ++ segment.connections.map .connection
  | .neighbor id =>
    let neighbor := network.neighbor id
    [.interface neighbor.self, .interface neighbor.peer]
  | .member id =>
    let member := network.member id
    [member.referrer, member.member]

/-- All references lead to objects that there are, and those that are kept on both sides
agree. -/
structure WellFormed (network : Network) : Prop where
  /-- Objects refer to objects that there are. -/
  closed : ∀ scope, network.Has scope → ∀ other ∈ network.referredBy scope, network.Has other
  /-- Attachments belong to objects that there are. -/
  owned : ∀ id, id < network.attachments.size → network.Has (network.attachment id).owner
  /-- An interface is listed once, at its node. -/
  interfaces : ListedOnce network.interfaces.size (fun id => (network.interface id).node)
    fun id => (network.node id).interfaces
  /-- A connection has two different ends. -/
  different : ∀ id, id < network.connections.size →
    (network.connection id).source ≠ (network.connection id).target
  /-- The ends of a connection have this connection. -/
  ends : ∀ id, id < network.connections.size → ∀ port, (network.connection id).HasEnd port →
    (network.interface port).connection = some id
  /-- An interface with a connection is an end of it. -/
  links : ∀ port id, (network.interface port).connection = some id →
    (network.connection id).HasEnd port
  /-- An interface with a connection is opposite to the one that is opposite to it. -/
  opposite : ∀ port id, (network.interface port).connection = some id →
    ∃ peer, network.opposite? port = some peer ∧ network.opposite? peer = some port
  /-- A group lists a node as often as the node lists the group. -/
  groups : ∀ node group,
    (network.node node).groups.count group = (network.group group).nodes.count node
  /-- A neighbor is listed once, at its own interface under its layer. -/
  neighbors : ListedOnce network.neighbors.size
    (fun id => ((network.neighbor id).self, (network.neighbor id).layer)) network.neighborsAt
  /-- A member is listed once, at its referrer. -/
  members : ListedOnce network.members.size (fun id => (network.member id).referrer)
    network.membersAt
  /-- An attachment is listed once, at its owner. -/
  attachments : ListedOnce network.attachments.size (fun id => (network.attachment id).owner)
    network.attachmentsAt

/-- What the changes of a network keep of its references. -/
structure Intact (network : Network) : Prop where
  linked : network.Linked
  coherent : network.Coherent
  different : ∀ id, id < network.connections.size →
    (network.connection id).source ≠ (network.connection id).target
  management : ∀ id port, (network.node id).managementInterface = some port →
    port < network.interfaces.size
  segmentPorts : ∀ id, ∀ port ∈ (network.segment id).interfaces, port < network.interfaces.size
  segmentLinks : ∀ id, ∀ link ∈ (network.segment id).connections,
    link < network.connections.size
  peers : ∀ id, id < network.neighbors.size →
    (network.neighbor id).peer < network.interfaces.size
  targets : ∀ id, id < network.members.size → network.Has (network.member id).member
  attachments : ListedOnce network.attachments.size (fun id => (network.attachment id).owner)
    network.attachmentsAt
  index : ∀ entry ∈ network.classIndex, network.Has entry.2.2

section WellFormed

variable {network : Network}

/-- An object that has attachments exists. -/
theorem has_of_mem_attachmentsAt {scope : Scope} {id : AttachmentId}
    (listed : id ∈ network.attachmentsAt scope) : network.Has scope := by
  cases scope with
  | node => exact lt_size_of_mem Node.attachments listed rfl
  | interface => exact lt_size_of_mem Interface.attachments listed rfl
  | connection => exact lt_size_of_mem Connection.attachments listed rfl
  | group => exact lt_size_of_mem Group.attachments listed rfl
  | segment => exact lt_size_of_mem Segment.attachments listed rfl
  | _ => cases listed

/-- A group that a node lists exists. -/
theorem Coherent.group_lt (coherent : network.Coherent) {node : NodeId} {group : GroupId}
    (listed : group ∈ (network.node node).groups) : group < network.groups.size := by
  have counted := List.count_pos_iff.mpr listed
  rw [coherent.groups] at counted
  exact lt_size_of_mem Group.nodes (List.count_pos_iff.mp counted) rfl

/-- A node that a group lists exists. -/
theorem Coherent.groupNode_lt (coherent : network.Coherent) {node : NodeId} {group : GroupId}
    (listed : node ∈ (network.group group).nodes) : node < network.nodes.size := by
  have counted := List.count_pos_iff.mpr listed
  rw [← coherent.groups] at counted
  exact lt_size_of_mem Node.groups (List.count_pos_iff.mp counted) rfl

/-- A member that a scope lists exists. -/
theorem Coherent.member_lt (coherent : network.Coherent) (scope : Scope) {id : MemberId}
    (listed : id ∈ network.membersAt scope) : id < network.members.size :=
  (coherent.members.mem_iff.mp listed).1

/-- The other end of a connection with two different ends leads back. -/
theorem Intact.exists_opposite (intact : network.Intact) {port : InterfaceId}
    {id : ConnectionId} (link : (network.interface port).connection = some id) :
    ∃ peer, network.opposite? port = some peer ∧ network.opposite? peer = some port := by
  obtain ⟨inside, isEnd⟩ := intact.linked.links port id link
  have different := intact.different id inside
  have back {peer : InterfaceId} (isEnd : (network.connection id).HasEnd peer) :
      network.opposite? peer = (network.connection id).otherEnd? peer := by
    rw [opposite?, (intact.linked.ends id inside peer isEnd).2]
    rfl
  rcases isEnd with rfl | rfl
  · refine ⟨(network.connection id).target, ?_, ?_⟩
    · rw [back (.inl rfl), Connection.otherEnd?, if_pos rfl]
    · rw [back (.inr rfl), Connection.otherEnd?, if_neg different, if_pos rfl]
  · refine ⟨(network.connection id).source, ?_, ?_⟩
    · rw [back (.inr rfl), Connection.otherEnd?, if_neg different, if_pos rfl]
    · rw [back (.inl rfl), Connection.otherEnd?, if_pos rfl]

/-- Objects refer to objects that there are. -/
theorem Intact.closed (intact : network.Intact) {scope other : Scope}
    (has : network.Has scope) (referred : other ∈ network.referredBy scope) :
    network.Has other := by
  have coherent := intact.coherent
  cases scope with
  | network =>
    obtain ⟨entry, listed, rfl⟩ := List.mem_map.mp referred
    exact intact.index entry listed
  | node id =>
    simp only [referredBy, List.mem_append, List.mem_map, Option.mem_toList] at referred
    rcases referred with ((⟨port, listed, rfl⟩ | ⟨group, listed, rfl⟩) | ⟨port, made, rfl⟩) |
      ⟨member, listed, rfl⟩
    · exact (intact.linked.onNode id port listed).1
    · exact coherent.group_lt listed
    · exact intact.management id port made
    · exact coherent.member_lt (.node id) listed
  | interface id =>
    simp only [referredBy, List.mem_append, List.mem_cons, List.mem_map, Option.mem_toList]
      at referred
    rcases referred with ((rfl | ⟨link, linked, rfl⟩) | ⟨neighbor, listed, rfl⟩) |
      ⟨member, listed, rfl⟩
    · exact coherent.node_lt has
    · exact (intact.linked.links id link linked).1
    · obtain ⟨layer, listed⟩ := Table.mem_flatten_values.mp listed
      exact (coherent.mem_neighbors.mp listed).1
    · exact coherent.member_lt (.interface id) listed
  | connection id =>
    simp only [referredBy, List.mem_cons, List.mem_map] at referred
    rcases referred with rfl | rfl | ⟨member, listed, rfl⟩
    · exact (intact.linked.ends id has _ (.inl rfl)).1
    · exact (intact.linked.ends id has _ (.inr rfl)).1
    · exact coherent.member_lt (.connection id) listed
  | group id =>
    obtain ⟨node, listed, rfl⟩ := List.mem_map.mp referred
    exact coherent.groupNode_lt listed
  | segment id =>
    simp only [referredBy, List.mem_append, List.mem_map] at referred
    rcases referred with ⟨port, listed, rfl⟩ | ⟨link, listed, rfl⟩
    · exact intact.segmentPorts id port listed
    · exact intact.segmentLinks id link listed
  | neighbor id =>
    simp only [referredBy, List.mem_cons, List.not_mem_nil, or_false] at referred
    rcases referred with rfl | rfl
    · exact coherent.self_lt has
    · exact intact.peers id has
  | member id =>
    simp only [referredBy, List.mem_cons, List.not_mem_nil, or_false] at referred
    rcases referred with rfl | rfl
    · exact has_of_mem_membersAt (coherent.members.mem_iff.mpr ⟨has, rfl⟩)
    · exact intact.targets id has

/-- What the changes of a network keep is enough. -/
theorem Intact.wellFormed (intact : network.Intact) : network.WellFormed where
  closed _ has _ referred := intact.closed has referred
  owned _ inside := has_of_mem_attachmentsAt (intact.attachments.mem_iff.mpr ⟨inside, rfl⟩)
  interfaces := intact.coherent.interfaces
  different := intact.different
  ends id inside port isEnd := (intact.linked.ends id inside port isEnd).2
  links port id link := (intact.linked.links port id link).2
  opposite _ _ link := intact.exists_opposite link
  groups := intact.coherent.groups
  neighbors := intact.coherent.neighbors
  members := intact.coherent.members
  attachments := intact.attachments

end WellFormed

/-! ## Changes that leave references alone -/

/-- How many objects of each kind there are, without attachments. -/
def bulk (network : Network) : Counts :=
  { network.counts with attachments := 0 }

/-- As many objects of each kind, with the same references.  This is not about
attachments. -/
structure SameReferences (before after : Network) : Prop where
  bulk : after.bulk = before.bulk
  node : ∀ id, (after.node id).references = (before.node id).references
  interface : ∀ id, (after.interface id).references = (before.interface id).references
  connection : ∀ id, (after.connection id).references = (before.connection id).references
  group : ∀ id, (after.group id).nodes = (before.group id).nodes
  segment : ∀ id, (after.segment id).references = (before.segment id).references
  neighbor : ∀ id, (after.neighbor id).references = (before.neighbor id).references
  member : ∀ id, (after.member id).references = (before.member id).references

/-- The same attachments of the same objects. -/
structure SameAttachments (before after : Network) : Prop where
  size : after.attachments.size = before.attachments.size
  owner : ∀ id, (after.attachment id).owner = (before.attachment id).owner
  listed : ∀ scope, after.attachmentsAt scope = before.attachmentsAt scope

theorem SameReferences.refl (network : Network) : SameReferences network network :=
  ⟨rfl, fun _ => rfl, fun _ => rfl, fun _ => rfl, fun _ => rfl, fun _ => rfl, fun _ => rfl,
    fun _ => rfl⟩

theorem SameReferences.trans {before middle after : Network}
    (first : SameReferences before middle) (second : SameReferences middle after) :
    SameReferences before after where
  bulk := second.bulk.trans first.bulk
  node id := (second.node id).trans (first.node id)
  interface id := (second.interface id).trans (first.interface id)
  connection id := (second.connection id).trans (first.connection id)
  group id := (second.group id).trans (first.group id)
  segment id := (second.segment id).trans (first.segment id)
  neighbor id := (second.neighbor id).trans (first.neighbor id)
  member id := (second.member id).trans (first.member id)

/-- The frame of stages that leave all references between objects alone. -/
def joined : Frame where
  holds before after := SameReferences before after ∧ SameAttachments before after
  refl network := ⟨.refl network, rfl, fun _ => rfl, fun _ => rfl⟩
  trans first second :=
    ⟨first.1.trans second.1, second.2.size.trans first.2.size,
      fun id => (second.2.owner id).trans (first.2.owner id),
      fun scope => (second.2.listed scope).trans (first.2.listed scope)⟩

/-- The frame of stages that also leave the index of classes alone. -/
def untouched : Frame where
  holds before after := joined.holds before after ∧ after.classIndex = before.classIndex
  refl network := ⟨joined.refl network, rfl⟩
  trans first second := ⟨joined.trans first.1 second.1, second.2.trans first.2⟩

section Same

variable {before after : Network}

/-- Which objects a network has depends on its numbers of objects alone. -/
theorem has_congr (bulk : after.bulk = before.bulk) (scope : Scope) :
    after.Has scope ↔ before.Has scope := by
  cases scope with
  | network => exact Iff.rfl
  | node id => exact (congrArg (id < ·.nodes) bulk).to_iff
  | interface id => exact (congrArg (id < ·.interfaces) bulk).to_iff
  | connection id => exact (congrArg (id < ·.connections) bulk).to_iff
  | group id => exact (congrArg (id < ·.groups) bulk).to_iff
  | segment id => exact (congrArg (id < ·.segments) bulk).to_iff
  | neighbor id => exact (congrArg (id < ·.neighbors) bulk).to_iff
  | member id => exact (congrArg (id < ·.members) bulk).to_iff

/-- The same references link the same objects. -/
theorem SameReferences.sameLinks (same : SameReferences before after) :
    SameLinks before after where
  nodeCount := congrArg Counts.nodes same.bulk
  interfaceCount := congrArg Counts.interfaces same.bulk
  connectionCount := congrArg Counts.connections same.bulk
  ports id := congrArg (·.1) (same.node id)
  node id := congrArg (·.1) (same.interface id)
  link id := congrArg (·.2.1) (same.interface id)
  source id := congrArg (·.1) (same.connection id)
  target id := congrArg (·.2.1) (same.connection id)

/-- The same references list the same members. -/
theorem SameReferences.membersAt (same : SameReferences before after) (scope : Scope) :
    after.membersAt scope = before.membersAt scope := by
  cases scope with
  | node id => exact congrArg (·.2.2.2) (same.node id)
  | interface id => exact congrArg (·.2.2.2) (same.interface id)
  | connection id => exact congrArg (·.2.2) (same.connection id)
  | _ => rfl

/-- Whether a network is coherent depends on its references alone. -/
theorem SameReferences.coherent (same : SameReferences before after)
    (coherent : before.Coherent) : after.Coherent where
  interfaces := coherent.interfaces.congr same.sameLinks.interfaceCount same.sameLinks.node
    same.sameLinks.ports
  neighbors := by
    refine coherent.neighbors.congr (congrArg Counts.neighbors same.bulk) (fun id => ?_)
      fun place => ?_
    · exact congrArg (fun found => (found.1, found.2.2)) (same.neighbor id)
    · exact congrArg (fun found => found.2.2.1.getD place.2 []) (same.interface place.1)
  members := coherent.members.congr (congrArg Counts.members same.bulk)
    (fun id => congrArg (·.1) (same.member id)) same.membersAt
  groups node group := by
    have listed : (after.node node).groups = (before.node node).groups :=
      congrArg (·.2.1) (same.node node)
    rw [listed, same.group]
    exact coherent.groups node group

/-- Changes that leave references alone keep them intact, if attachments and the index
are as they should be. -/
theorem Intact.of_sameReferences (intact : before.Intact) (same : SameReferences before after)
    (attachments : ListedOnce after.attachments.size (fun id => (after.attachment id).owner)
      after.attachmentsAt)
    (index : ∀ entry ∈ after.classIndex, before.Has entry.2.2) : after.Intact where
  linked := same.sameLinks.linked intact.linked
  coherent := same.coherent intact.coherent
  different id inside := by
    rw [same.sameLinks.connectionCount] at inside
    rw [same.sameLinks.source, same.sameLinks.target]
    exact intact.different id inside
  management id port made := by
    have kept := congrArg (·.2.2.1) (same.node id)
    rw [same.sameLinks.interfaceCount]
    exact intact.management id port (kept.symm.trans made)
  segmentPorts id port listed := by
    have kept : (after.segment id).interfaces = (before.segment id).interfaces :=
      congrArg (·.1) (same.segment id)
    rw [kept] at listed
    rw [same.sameLinks.interfaceCount]
    exact intact.segmentPorts id port listed
  segmentLinks id link listed := by
    have kept : (after.segment id).connections = (before.segment id).connections :=
      congrArg (·.2) (same.segment id)
    rw [kept] at listed
    rw [same.sameLinks.connectionCount]
    exact intact.segmentLinks id link listed
  peers id inside := by
    have kept : (after.neighbor id).peer = (before.neighbor id).peer :=
      congrArg (·.2.1) (same.neighbor id)
    have size := congrArg Counts.neighbors same.bulk
    rw [same.sameLinks.interfaceCount, kept]
    exact intact.peers id (Nat.lt_of_lt_of_eq inside size)
  targets id inside := by
    have kept : (after.member id).member = (before.member id).member :=
      congrArg (·.2) (same.member id)
    have size := congrArg Counts.members same.bulk
    rw [kept, has_congr same.bulk]
    exact intact.targets id (Nat.lt_of_lt_of_eq inside size)
  attachments := attachments
  index entry listed := (has_congr same.bulk _).mpr (index entry listed)

/-- Attachments that stay the same are still listed once. -/
theorem SameAttachments.listedOnce (same : SameAttachments before after) (intact : before.Intact) :
    ListedOnce after.attachments.size (fun id => (after.attachment id).owner)
      after.attachmentsAt :=
  intact.attachments.congr same.size same.owner same.listed

/-- Whether a network is intact depends on its references and attachments alone. -/
theorem Intact.congr (intact : before.Intact) (same : untouched.holds before after) :
    after.Intact :=
  intact.of_sameReferences same.1.1 (same.1.2.listedOnce intact) fun entry listed =>
    intact.index entry (same.2 ▸ listed)

end Same

section Changes

variable (network : Network)

/-- A change of a node that keeps its references keeps those of the network. -/
theorem sameReferences_updateNode {change : Node → Node}
    (keeps : ∀ node, (change node).references = node.references) (id : NodeId) :
    SameReferences network (network.updateNode id change) :=
  { SameReferences.refl network with
    bulk := by simp only [bulk, counts, updateNode, Array.size_modify]
    node := network.node_updateNode_field keeps id }

/-- A change of an interface that keeps its references keeps those of the network. -/
theorem sameReferences_updateInterface {change : Interface → Interface}
    (keeps : ∀ interface, (change interface).references = interface.references)
    (id : InterfaceId) : SameReferences network (network.updateInterface id change) :=
  { SameReferences.refl network with
    bulk := by simp only [bulk, counts, updateInterface, Array.size_modify]
    interface := network.interface_updateInterface_field keeps id }

/-- A change of a connection that keeps its references keeps those of the network. -/
theorem sameReferences_updateConnection {change : Connection → Connection}
    (keeps : ∀ connection, (change connection).references = connection.references)
    (id : ConnectionId) : SameReferences network (network.updateConnection id change) :=
  { SameReferences.refl network with
    bulk := by simp only [bulk, counts, updateConnection, Array.size_modify]
    connection := network.connection_updateConnection_field keeps id }

/-- A change of a group that keeps its nodes keeps the references of the network. -/
theorem sameReferences_updateGroup {change : Group → Group}
    (keeps : ∀ group, (change group).nodes = group.nodes) (id : GroupId) :
    SameReferences network (network.updateGroup id change) :=
  { SameReferences.refl network with
    bulk := by simp only [bulk, counts, updateGroup, Array.size_modify]
    group := network.group_updateGroup_field keeps id }

/-- A change of a segment that keeps its references keeps those of the network. -/
theorem sameReferences_updateSegment {change : Segment → Segment}
    (keeps : ∀ segment, (change segment).references = segment.references) (id : SegmentId) :
    SameReferences network (network.updateSegment id change) :=
  { SameReferences.refl network with
    bulk := by simp only [bulk, counts, updateSegment, Array.size_modify]
    segment := network.segment_updateSegment_field keeps id }

/-- A change of a node that keeps its attachments keeps those of every scope. -/
theorem attachmentsAt_updateNode {change : Node → Node}
    (keeps : ∀ node, (change node).attachments = node.attachments) (id : NodeId) (scope : Scope) :
    (network.updateNode id change).attachmentsAt scope = network.attachmentsAt scope := by
  cases scope with
  | node other => exact network.node_updateNode_field keeps id other
  | _ => rfl

/-- A change of an interface that keeps its attachments keeps those of every scope. -/
theorem attachmentsAt_updateInterface {change : Interface → Interface}
    (keeps : ∀ interface, (change interface).attachments = interface.attachments)
    (id : InterfaceId) (scope : Scope) :
    (network.updateInterface id change).attachmentsAt scope = network.attachmentsAt scope := by
  cases scope with
  | interface other => exact network.interface_updateInterface_field keeps id other
  | _ => rfl

/-- A change of a connection that keeps its attachments keeps those of every scope. -/
theorem attachmentsAt_updateConnection {change : Connection → Connection}
    (keeps : ∀ connection, (change connection).attachments = connection.attachments)
    (id : ConnectionId) (scope : Scope) :
    (network.updateConnection id change).attachmentsAt scope = network.attachmentsAt scope := by
  cases scope with
  | connection other => exact network.connection_updateConnection_field keeps id other
  | _ => rfl

/-- A change of a group that keeps its attachments keeps those of every scope. -/
theorem attachmentsAt_updateGroup {change : Group → Group}
    (keeps : ∀ group, (change group).attachments = group.attachments) (id : GroupId)
    (scope : Scope) :
    (network.updateGroup id change).attachmentsAt scope = network.attachmentsAt scope := by
  cases scope with
  | group other => exact network.group_updateGroup_field keeps id other
  | _ => rfl

/-- A change of a segment that keeps its attachments keeps those of every scope. -/
theorem attachmentsAt_updateSegment {change : Segment → Segment}
    (keeps : ∀ segment, (change segment).attachments = segment.attachments) (id : SegmentId)
    (scope : Scope) :
    (network.updateSegment id change).attachmentsAt scope = network.attachmentsAt scope := by
  cases scope with
  | segment other => exact network.segment_updateSegment_field keeps id other
  | _ => rfl

/-- A change of a node that keeps what it refers to keeps the network joined. -/
theorem joined_updateNode {change : Node → Node}
    (keeps : ∀ node, (change node).references = node.references)
    (attachments : ∀ node, (change node).attachments = node.attachments) (id : NodeId) :
    joined.holds network (network.updateNode id change) :=
  ⟨network.sameReferences_updateNode keeps id, rfl, fun _ => rfl,
    network.attachmentsAt_updateNode attachments id⟩

/-- A change of an interface that keeps what it refers to keeps the network joined. -/
theorem joined_updateInterface {change : Interface → Interface}
    (keeps : ∀ interface, (change interface).references = interface.references)
    (attachments : ∀ interface, (change interface).attachments = interface.attachments)
    (id : InterfaceId) : joined.holds network (network.updateInterface id change) :=
  ⟨network.sameReferences_updateInterface keeps id, rfl, fun _ => rfl,
    network.attachmentsAt_updateInterface attachments id⟩

/-- A change of a connection that keeps what it refers to keeps the network joined. -/
theorem joined_updateConnection {change : Connection → Connection}
    (keeps : ∀ connection, (change connection).references = connection.references)
    (attachments : ∀ connection, (change connection).attachments = connection.attachments)
    (id : ConnectionId) : joined.holds network (network.updateConnection id change) :=
  ⟨network.sameReferences_updateConnection keeps id, rfl, fun _ => rfl,
    network.attachmentsAt_updateConnection attachments id⟩

/-- A change of a group that keeps what it refers to keeps the network joined. -/
theorem joined_updateGroup {change : Group → Group}
    (keeps : ∀ group, (change group).nodes = group.nodes)
    (attachments : ∀ group, (change group).attachments = group.attachments) (id : GroupId) :
    joined.holds network (network.updateGroup id change) :=
  ⟨network.sameReferences_updateGroup keeps id, rfl, fun _ => rfl,
    network.attachmentsAt_updateGroup attachments id⟩

/-- A change of a segment that keeps what it refers to keeps the network joined. -/
theorem joined_updateSegment {change : Segment → Segment}
    (keeps : ∀ segment, (change segment).references = segment.references)
    (attachments : ∀ segment, (change segment).attachments = segment.attachments)
    (id : SegmentId) : joined.holds network (network.updateSegment id change) :=
  ⟨network.sameReferences_updateSegment keeps id, rfl, fun _ => rfl,
    network.attachmentsAt_updateSegment attachments id⟩

/-- Parameters are no references. -/
theorem untouched_updateParameters (scope : Scope) (change : Parameters → Parameters) :
    untouched.holds network (network.updateParameters scope change) := by
  cases scope with
  | network =>
    exact ⟨⟨{ SameReferences.refl network with }, rfl, fun _ => rfl, fun scope => by cases scope <;> rfl⟩, rfl⟩
  | node id => exact ⟨network.joined_updateNode (fun _ => by rfl) (fun _ => by rfl) id, rfl⟩
  | interface id =>
    exact ⟨network.joined_updateInterface (fun _ => by rfl) (fun _ => by rfl) id, rfl⟩
  | connection id =>
    exact ⟨network.joined_updateConnection (fun _ => by rfl) (fun _ => by rfl) id, rfl⟩
  | group id => exact ⟨network.joined_updateGroup (fun _ => by rfl) (fun _ => by rfl) id, rfl⟩
  | segment id => exact ⟨network.joined_updateSegment (fun _ => by rfl) (fun _ => by rfl) id, rfl⟩
  | neighbor id =>
    refine ⟨⟨{ SameReferences.refl network with
      bulk := by simp only [bulk, counts, updateParameters, Array.size_modify]
      neighbor := fun other => ?_ }, rfl, fun _ => rfl, fun scope => by cases scope <;> rfl⟩, rfl⟩
    exact getD_modify_field (fun _ => by rfl) network.neighbors id other default
  | member id =>
    refine ⟨⟨{ SameReferences.refl network with
      bulk := by simp only [bulk, counts, updateParameters, Array.size_modify]
      member := fun other => ?_ }, rfl, fun _ => rfl, fun scope => by cases scope <;> rfl⟩, rfl⟩
    exact getD_modify_field (fun _ => by rfl) network.members id other default

end Changes

/-! ## Classes -/

/-- Classes and names leave references between objects alone. -/
theorem joined_tolerant : joined.Tolerant where
  node network id _ keeps := network.joined_updateNode
    (fun node => congrArg (fun fixed => (fixed.2.1, fixed.2.2.1, fixed.2.2.2.1, fixed.2.2.2.2.1))
      (keeps node))
    (fun node => congrArg (·.2.2.2.2.2) (keeps node)) id
  interface network id _ keeps := network.joined_updateInterface
    (fun interface => congrArg (fun fixed =>
      (fixed.1, fixed.2.1, fixed.2.2.2.1, fixed.2.2.2.2.1)) (keeps interface))
    (fun interface => congrArg (·.2.2.2.2.2.1) (keeps interface)) id
  connection network id _ keeps := network.joined_updateConnection
    (fun connection => congrArg (fun fixed => (fixed.1, fixed.2.1, fixed.2.2.2.1))
      (keeps connection))
    (fun connection => congrArg (·.2.2.2.2) (keeps connection)) id
  group network id _ keeps := network.joined_updateGroup
    (fun group => congrArg (·.2.2.1) (keeps group))
    (fun group => congrArg (·.2.2.2) (keeps group)) id
  enter network kind className scope := by
    rw [enter_eq]
    exact ⟨{ SameReferences.refl network with }, rfl, fun _ => rfl,
      fun scope => by cases scope <;> rfl⟩
  parameters network _ := ⟨{ SameReferences.refl network with }, rfl, fun _ => rfl,
    fun scope => by cases scope <;> rfl⟩

/-- Names are no references, and no part of the index. -/
theorem untouched_nameless : untouched.Nameless where
  node network id _ := ⟨network.joined_updateNode (fun _ => by rfl) (fun _ => by rfl) id, rfl⟩
  interface network id _ :=
    ⟨network.joined_updateInterface (fun _ => by rfl) (fun _ => by rfl) id, rfl⟩
  connection network id _ :=
    ⟨network.joined_updateConnection (fun _ => by rfl) (fun _ => by rfl) id, rfl⟩

/-- An entry of the index was there before or is the one made. -/
theorem mem_classIndex_enter {network : Network} {kind : ClassKind} {className : String}
    {scope : Scope} {entry : ClassKind × String × Scope}
    (listed : entry ∈ (network.enter kind className scope).classIndex) :
    entry ∈ network.classIndex ∨ entry = (kind, className, scope) := by
  unfold Network.enter at listed
  split at listed
  · exact .inl listed
  · exact (List.mem_append.mp listed).imp_right List.mem_singleton.mp

/-- An object that exists is entered under a class. -/
theorem Intact.enter {before after : Network} (intact : before.Intact)
    (same : joined.holds before after) {kind : ClassKind} {className : String} (scope : Scope)
    (has : before.Has scope)
    (index : after.classIndex = (before.enter kind className scope).classIndex) :
    after.Intact := by
  refine intact.of_sameReferences same.1 (same.2.listedOnce intact) fun entry listed => ?_
  rw [index] at listed
  rcases mem_classIndex_enter listed with old | rfl
  · exact intact.index entry old
  · exact has

/-- Actions of classes keep references intact. -/
theorem Intact.classStep {config : Config} {before after : Network} (intact : before.Intact)
    (step : ClassEffects.ClassStep config before after) : after.Intact := by
  have same := step.holds joined_tolerant
  cases step with
  | startNode id => exact intact.congr ⟨same, rfl⟩
  | node id _ inside acts =>
    obtain ⟨definition, _, _, _⟩ := acts
    exact intact.enter same (.node id) inside
      (ClassEffects.sameRecords_giveInterfaces config _ _ _).1
  | startConnection id => exact intact.congr ⟨same, rfl⟩
  | connection id _ inside acts =>
    obtain ⟨definition, _, _, _⟩ := acts
    exact intact.enter same (.connection id) inside rfl
  | startInterface id =>
    exact intact.congr ⟨same, (ClassEffects.sameRecords_startInterface before id).1⟩
  | interface id _ inside acts =>
    obtain ⟨definition, _, _, _⟩ := acts
    exact intact.enter same (.interface id) inside
      (ClassEffects.sameRecords_widen _ id definition).1
  | group id _ inside acts =>
    obtain ⟨definition, _, _⟩ := acts
    exact intact.enter same (.group id) inside rfl

/-- The effects of all classes keep references intact. -/
theorem Intact.resolveClasses {config : Config} {extra : ExtraClasses} {before after : Network}
    (intact : before.Intact)
    (run : (ClassEffects.resolveClasses config extra).outcome before = (.ok (), after)) :
    after.Intact := by
  obtain ⟨classified, chain, rfl⟩ := ClassEffects.resolveClasses_steps run
  have objects : classified.Intact := by
    clear run
    induction chain with
    | refl => exact intact
    | tail _ last inductionHypothesis => exact inductionHypothesis.classStep last
  refine List.foldlRecOn _ _ objects fun current holds definition _ => ?_
  have same : joined.holds current (ClassEffects.applyNetworkClass current definition) :=
    joined.trans (joined_tolerant.enter current .network definition.name .network)
      (joined_tolerant.parameters _ _)
  exact holds.enter same .network trivial rfl

/-! ## Objects that are added -/

/-- Numbers of objects that are at least as large. -/
structure Counts.Grow (before after : Counts) : Prop where
  nodes : before.nodes ≤ after.nodes := by exact Nat.le_refl _
  interfaces : before.interfaces ≤ after.interfaces := by exact Nat.le_refl _
  connections : before.connections ≤ after.connections := by exact Nat.le_refl _
  groups : before.groups ≤ after.groups := by exact Nat.le_refl _
  segments : before.segments ≤ after.segments := by exact Nat.le_refl _
  neighbors : before.neighbors ≤ after.neighbors := by exact Nat.le_refl _
  members : before.members ≤ after.members := by exact Nat.le_refl _

/-- A network that grows keeps its objects. -/
theorem Counts.Grow.has {before after : Network} (grow : before.counts.Grow after.counts)
    {scope : Scope} (has : before.Has scope) : after.Has scope := by
  cases scope with
  | network => trivial
  | node => exact Nat.lt_of_lt_of_le has grow.nodes
  | interface => exact Nat.lt_of_lt_of_le has grow.interfaces
  | connection => exact Nat.lt_of_lt_of_le has grow.connections
  | group => exact Nat.lt_of_lt_of_le has grow.groups
  | segment => exact Nat.lt_of_lt_of_le has grow.segments
  | neighbor => exact Nat.lt_of_lt_of_le has grow.neighbors
  | member => exact Nat.lt_of_lt_of_le has grow.members

section Adding

variable {network : Network}

/-- A new interface of a node that there is, without connection and lists. -/
theorem Intact.addInterface (intact : network.Intact) {added : Interface}
    (inside : added.node < network.nodes.size) (free : added.connection = none)
    (neighbors : added.neighbors = {}) (members : added.members = [])
    (attachments : added.attachments = []) : (network.addInterface added).Intact := by
  have grow : network.counts.Grow (network.addInterface added).counts :=
    { nodes := Nat.le_of_eq (size_nodes_addInterface network added).symm
      interfaces := Nat.le.intro (size_interfaces_addInterface network added).symm }
  refine ⟨intact.linked.addInterface inside free,
    intact.coherent.addInterface inside neighbors members, intact.different,
    fun id port made => ?_,
    fun id port listed => Nat.lt_of_lt_of_le (intact.segmentPorts id port listed) grow.interfaces,
    intact.segmentLinks,
    fun id below => Nat.lt_of_lt_of_le (intact.peers id below) grow.interfaces,
    fun id below => grow.has (intact.targets id below), ?_,
    fun entry listed => grow.has (intact.index entry listed)⟩
  · rw [node_addInterface_field Node.managementInterface fun _ _ => rfl] at made
    exact Nat.lt_of_lt_of_le (intact.management id port made) grow.interfaces
  · refine intact.attachments.congr rfl (fun _ => rfl) fun scope => ?_
    cases scope with
    | node id => exact node_addInterface_field Node.attachments (fun _ _ => rfl) added id
    | interface id => exact interface_addInterface_field Interface.attachments attachments id
    | _ => rfl

/-- The management interface of a node that there is. -/
theorem Intact.addManagement (intact : network.Intact) {node : NodeId}
    (inside : node < network.nodes.size) (name className : String) :
    (network.addManagement node name className).Intact := by
  let added := network.addInterface (Management.interfaceOf network node name className)
  let enter (found : Node) : Node :=
    { found with managementInterface := some network.interfaces.size }
  change (added.updateNode node enter).Intact
  have wired : added.Intact := intact.addInterface inside rfl rfl rfl rfl
  have shaped : SameShape added (added.updateNode node enter) :=
    added.sameShape_updateNode fun _ => rfl
  have kept : ∀ scope, (added.updateNode node enter).attachmentsAt scope =
      added.attachmentsAt scope :=
    added.attachmentsAt_updateNode (fun _ => by rfl) node
  have grow : added.counts.Grow (added.updateNode node enter).counts :=
    { nodes := Nat.le_of_eq shaped.nodeCount.symm }
  refine ⟨shaped.linked wired.linked,
    wired.coherent.updateNode (fun _ => rfl) (fun _ => rfl) fun _ => rfl, wired.different,
    fun id port made => ?_, wired.segmentPorts, wired.segmentLinks, wired.peers,
    fun id below => grow.has (wired.targets id below),
    wired.attachments.congr rfl (fun _ => rfl) kept,
    fun entry listed => grow.has (wired.index entry listed)⟩
  rw [node_updateNode] at made
  split at made
  case isTrue =>
    cases made
    exact Nat.lt_of_lt_of_eq (Nat.lt_succ_self _) (size_interfaces_addInterface network _).symm
  case isFalse => exact wired.management id port made

/-- A member lists no attachments. -/
theorem attachmentsAt_addMember (added : Member) (scope : Scope) :
    (network.addMember added).attachmentsAt scope = network.attachmentsAt scope := by
  have pushed : attachmentsAt { network with members := network.members.push added } scope =
      network.attachmentsAt scope := by
    cases scope <;> rfl
  unfold Network.addMember
  dsimp only
  split
  · exact (attachmentsAt_updateNode _ (fun _ => by rfl) _ scope).trans pushed
  · exact (attachmentsAt_updateInterface _ (fun _ => by rfl) _ scope).trans pushed
  · exact (attachmentsAt_updateConnection _ (fun _ => by rfl) _ scope).trans pushed
  · exact pushed

theorem attachments_addMember (added : Member) :
    (network.addMember added).attachments = network.attachments := by
  unfold Network.addMember
  dsimp only
  split <;> rfl

/-- A member of an object that may have members, which is an object of the index. -/
theorem Intact.addMember (intact : network.Intact) {added : Member}
    (inside : added.referrer ∈ Membership.referrers network)
    (entered : (added.kind, added.className, added.member) ∈ network.classIndex) :
    (network.addMember added).Intact := by
  have shaped := network.sameShape_addMember added
  have size : (network.addMember added).members.size = network.members.size + 1 := by
    rw [members_addMember, Array.size_push]
  have grow : network.counts.Grow (network.addMember added).counts :=
    { nodes := Nat.le_of_eq shaped.nodeCount.symm
      interfaces := Nat.le_of_eq shaped.interfaceCount.symm
      connections := Nat.le_of_eq shaped.connectionCount.symm
      groups := Nat.le_of_eq (congrArg Array.size (groups_addMember added)).symm
      segments := Nat.le_of_eq (congrArg Array.size shaped.segments).symm
      neighbors := Nat.le_of_eq (congrArg Array.size (neighbors_addMember added)).symm
      members := Nat.le.intro size.symm }
  constructor
  case linked => exact shaped.linked intact.linked
  case coherent => exact intact.coherent.addMember inside
  case different =>
    intro id below
    rw [shaped.source, shaped.target]
    exact intact.different id (Nat.lt_of_lt_of_eq below shaped.connectionCount)
  case management =>
    intro id port made
    rw [node_addMember_field Node.managementInterface fun _ _ => rfl] at made
    exact Nat.lt_of_lt_of_le (intact.management id port made) grow.interfaces
  case segmentPorts =>
    intro id port listed
    rw [segment, shaped.segments] at listed
    exact Nat.lt_of_lt_of_le (intact.segmentPorts id port listed) grow.interfaces
  case segmentLinks =>
    intro id link listed
    rw [segment, shaped.segments] at listed
    exact Nat.lt_of_lt_of_le (intact.segmentLinks id link listed) grow.connections
  case peers =>
    intro id below
    rw [neighbors_addMember] at below
    rw [neighbor, neighbors_addMember]
    exact Nat.lt_of_lt_of_le (intact.peers id below) grow.interfaces
  case targets =>
    intro id below
    rw [size] at below
    rw [member, members_addMember, getD_push]
    split
    case isTrue => exact grow.has (intact.index _ entered)
    case isFalse other =>
      exact grow.has (intact.targets id (Nat.lt_of_le_of_ne (Nat.lt_succ_iff.mp below) other))
  case attachments =>
    unfold attachment
    rw [attachments_addMember]
    exact intact.attachments.congr rfl (fun _ => rfl) (attachmentsAt_addMember added)
  case index =>
    intro entry listed
    rw [Membership.classIndex_addMember] at listed
    exact grow.has (intact.index entry listed)

/-- A segment of interfaces and connections that there are. -/
theorem Intact.addSegment (intact : network.Intact) {added : Segment}
    (ports : ∀ port ∈ added.interfaces, port < network.interfaces.size)
    (links : ∀ link ∈ added.connections, link < network.connections.size)
    (attachments : added.attachments = []) : (network.addSegment added).Intact := by
  have grow : network.counts.Grow (network.addSegment added).counts :=
    { segments := Nat.le.intro (Array.size_push added).symm }
  have segment (id : SegmentId) : (network.addSegment added).segment id =
      if id = network.segments.size then added else network.segment id :=
    getD_push network.segments added default id
  have lists (scope : Scope) :
      (network.addSegment added).attachmentsAt scope = network.attachmentsAt scope := by
    cases scope with
    | segment id => exact field_getD_push Segment.attachments attachments id
    | _ => rfl
  constructor
  case linked => exact { intact.linked with }
  case coherent => exact { intact.coherent with }
  case different => exact intact.different
  case management => exact intact.management
  case segmentPorts =>
    intro id port listed
    rw [segment] at listed
    split at listed
    · exact ports port listed
    · exact intact.segmentPorts id port listed
  case segmentLinks =>
    intro id link listed
    rw [segment] at listed
    split at listed
    · exact links link listed
    · exact intact.segmentLinks id link listed
  case peers => exact intact.peers
  case targets => exact fun id below => grow.has (intact.targets id below)
  case attachments => exact intact.attachments.congr rfl (fun _ => rfl) lists
  case index => exact fun entry listed => grow.has (intact.index entry listed)

/-- A neighbor of an interface that there is. -/
theorem Intact.addNeighbor (intact : network.Intact) {added : Neighbor}
    (self : added.self < network.interfaces.size) (peer : added.peer < network.interfaces.size) :
    (network.addNeighbor added).Intact := by
  have same : SameLinks network (network.addNeighbor added) :=
    (Segments.outlined_addNeighbor network added).1
  have grow : network.counts.Grow (network.addNeighbor added).counts :=
    { interfaces := Nat.le_of_eq same.interfaceCount.symm
      neighbors := Nat.le.intro (size_neighbors_addNeighbor network added).symm }
  have lists (scope : Scope) :
      (network.addNeighbor added).attachmentsAt scope = network.attachmentsAt scope := by
    cases scope with
    | interface id =>
      exact interface_addNeighbor_field Interface.attachments (fun _ _ => rfl) added id
    | _ => rfl
  constructor
  case linked => exact same.linked intact.linked
  case coherent => exact intact.coherent.addNeighbor self
  case different => exact intact.different
  case management =>
    exact fun id port made => Nat.lt_of_lt_of_le (intact.management id port made) grow.interfaces
  case segmentPorts =>
    exact fun id port listed =>
      Nat.lt_of_lt_of_le (intact.segmentPorts id port listed) grow.interfaces
  case segmentLinks => exact intact.segmentLinks
  case peers =>
    intro id below
    refine Nat.lt_of_lt_of_le ?_ grow.interfaces
    rw [size_neighbors_addNeighbor] at below
    rw [neighbor_addNeighbor]
    split
    case isTrue => exact peer
    case isFalse other =>
      exact intact.peers id (Nat.lt_of_le_of_ne (Nat.lt_succ_iff.mp below) other)
  case targets => exact fun id below => grow.has (intact.targets id below)
  case attachments => exact intact.attachments.congr rfl (fun _ => rfl) lists
  case index => exact fun entry listed => grow.has (intact.index entry listed)

/-- An attachment leaves the references as they are. -/
theorem sameReferences_addAttachment (network : Network) (added : Attachment) :
    SameReferences network (network.addAttachment added) := by
  have pushed : SameReferences network
      { network with attachments := network.attachments.push added } :=
    { SameReferences.refl network with }
  unfold Network.addAttachment
  dsimp only
  split
  · exact pushed.trans (sameReferences_updateNode _ (fun _ => by rfl) _)
  · exact pushed.trans (sameReferences_updateInterface _ (fun _ => by rfl) _)
  · exact pushed.trans (sameReferences_updateConnection _ (fun _ => by rfl) _)
  · exact pushed.trans (sameReferences_updateGroup _ (fun _ => by rfl) _)
  · exact pushed.trans (sameReferences_updateSegment _ (fun _ => by rfl) _)
  · exact pushed

/-- A new attachment is the last of the arena. -/
theorem attachments_addAttachment (network : Network) (added : Attachment) :
    (network.addAttachment added).attachments = network.attachments.push added := by
  unfold Network.addAttachment
  dsimp only
  split <;> rfl

theorem classIndex_addAttachment (network : Network) (added : Attachment) :
    (network.addAttachment added).classIndex = network.classIndex := by
  unfold Network.addAttachment
  dsimp only
  split <;> rfl

/-- The objects that may have records exist when interfaces of nodes do. -/
theorem has_of_mem_owners
    (inside : ∀ node, ∀ id ∈ (network.node node).interfaces, id < network.interfaces.size)
    {owner : Scope} (listed : owner ∈ Attaching.owners network) : network.Has owner := by
  simp only [Attaching.owners, List.mem_append, List.mem_map, List.mem_flatMap, nodeIds,
    connectionIds, groupIds, segmentIds, List.mem_range] at listed
  rcases listed with (((⟨id, below, rfl⟩ | ⟨node, _, id, listed, rfl⟩) | ⟨id, below, rfl⟩) |
    ⟨id, below, rfl⟩) | ⟨id, below, rfl⟩
  · exact below
  · exact inside node id listed
  · exact below
  · exact below
  · exact below

/-- A new attachment is entered at its owner. -/
theorem attachmentsAt_addAttachment {added : Attachment} (has : network.Has added.owner)
    (owner : added.owner ∈ Attaching.owners network) (scope : Scope) :
    (network.addAttachment added).attachmentsAt scope =
      if scope = added.owner then network.attachmentsAt scope ++ [network.attachments.size]
      else network.attachmentsAt scope := by
  unfold Network.addAttachment
  dsimp only
  cases kind : added.owner with
  | node id =>
    rw [kind] at has
    cases scope with
    | node other =>
      simp only [Scope.node.injEq]
      exact list_getD_modify Node.attachments (fun _ => rfl) has other default
    | _ => exact (if_neg Scope.noConfusion).symm
  | interface id =>
    rw [kind] at has
    cases scope with
    | interface other =>
      simp only [Scope.interface.injEq]
      exact list_getD_modify Interface.attachments (fun _ => rfl) has other default
    | _ => exact (if_neg Scope.noConfusion).symm
  | connection id =>
    rw [kind] at has
    cases scope with
    | connection other =>
      simp only [Scope.connection.injEq]
      exact list_getD_modify Connection.attachments (fun _ => rfl) has other default
    | _ => exact (if_neg Scope.noConfusion).symm
  | group id =>
    rw [kind] at has
    cases scope with
    | group other =>
      simp only [Scope.group.injEq]
      exact list_getD_modify Group.attachments (fun _ => rfl) has other default
    | _ => exact (if_neg Scope.noConfusion).symm
  | segment id =>
    rw [kind] at has
    cases scope with
    | segment other =>
      simp only [Scope.segment.injEq]
      exact list_getD_modify Segment.attachments (fun _ => rfl) has other default
    | _ => exact (if_neg Scope.noConfusion).symm
  | network | neighbor | member => simp [Attaching.owners, kind] at owner

/-- A record of an object that may have records. -/
theorem Intact.addAttachment (intact : network.Intact) {added : Attachment}
    (owner : added.owner ∈ Attaching.owners network) : (network.addAttachment added).Intact := by
  refine intact.of_sameReferences (sameReferences_addAttachment network added) ?_ ?_
  · unfold attachment
    rw [attachments_addAttachment, Array.size_push]
    refine intact.attachments.push (fun id other => ?_) fun scope => ?_
    · rw [getD_push, if_neg other]
      rfl
    · have has := has_of_mem_owners (fun node id listed => (intact.linked.onNode node id listed).1)
        owner
      rw [attachmentsAt_addAttachment has owner, getD_push, if_pos rfl]
  · rw [classIndex_addAttachment]
    exact intact.index

end Adding

end Network

end TopoPlan
