import TopoPlan.Network.ScopeOrder
import TopoPlan.Proofs.Network.SearchedObjects
import TopoPlan.Proofs.Text.Cutting

/-!
# Objects below objects

A key of child classes is read back as the class that it was written for, so the
objects that an object comes after can always be told.  They have a lower rank, which
is why no order of dependencies goes round.
-/

namespace TopoPlan

namespace ChildClass

/-- The key of a child class of members is read back. -/
theorem membersOfKey?_members (kind : ClassKind) (className : String) :
    membersOfKey? (members kind className).key = some (members kind className) := by
  have word : '_' ∉ kind.name.toList := by cases kind <;> decide
  have named : ClassKind.ofName? kind.name = some kind := by cases kind <;> decide
  have cut : Text.cutOnce '_' (kind.name ++ "_" ++ className) = some (kind.name, className) :=
    Text.cutOnce_append '_' word className
  have start : (members kind className).key = memberStart ++ (kind.name ++ "_" ++ className) := by
    simp only [key, String.append_assoc]
  simp [membersOfKey?, start, Text.after?_append, cut, named]

/-- The keys of neighbors begin otherwise than those of members. -/
theorem membersOfKey?_neighbors (layer : String) : membersOfKey? (neighbors layer).key = none := by
  have other : Text.after? memberStart (neighbors layer).key = none := by
    simp [key, Text.after?, memberStart, neighborStart, Text.afterStart?]
  simp [membersOfKey?, other]

/-- A key is read back as the class that it was written for. -/
theorem ofKey?_key (childClass : ChildClass) : ofKey? childClass.key = some childClass := by
  cases childClass with
  | kind kind => cases kind <;> decide
  | neighbors layer =>
    rw [ofKey?, membersOfKey?_neighbors, key, Text.after?_append]
    rfl
  | members kind className =>
    rw [ofKey?, membersOfKey?_members]
    rfl

end ChildClass

/-- The rank of an object: objects below it have a lower one. -/
def Scope.rank : Scope → Nat
  | .neighbor _ | .member _ => 0
  | .interface _ => 1
  | .node _ | .connection _ => 2
  | .group _ | .segment _ => 3
  | .network => 4

namespace Network

variable {network : Network} {scope child : Scope}

/-- The keys of members are those of the classes that they are members by. -/
theorem mem_memberKeys {members : List MemberId} {key : String} :
    key ∈ network.memberKeys members ↔ ∃ id ∈ members,
      (ChildClass.members (network.member id).kind (network.member id).className).key = key := by
  simp [memberKeys, NameSet.mem_addAll]

/-- An object comes before another one when it is in a class of children on which the
other one depends. -/
def ChildOf (network : Network) (child scope : Scope) : Prop :=
  ∃ childClass : ChildClass, childClass.key ∈ network.dependencyClasses scope ∧
    ∃ children, network.childrenIn scope childClass = some children ∧ child ∈ children

/-- An object has all child classes on which it depends. -/
theorem exists_childrenIn {key : String} (listed : key ∈ network.dependencyClasses scope) :
    ∃ childClass children, ChildClass.key childClass = key ∧
      network.childrenIn scope childClass = some children := by
  have byMembers {members : List MemberId} (listed : key ∈ network.memberKeys members) :
      ∃ childClass children, ChildClass.key childClass = key ∧
        network.childrenIn scope childClass = some children := by
    obtain ⟨_, _, same⟩ := mem_memberKeys.mp listed
    exact ⟨_, _, same, rfl⟩
  cases scope with
  | network =>
    simp only [dependencyClasses, List.mem_cons, List.not_mem_nil, or_false] at listed
    rcases listed with rfl | rfl | rfl | rfl
    · exact ⟨.kind .node, _, rfl, rfl⟩
    · exact ⟨.kind .group, _, rfl, rfl⟩
    · exact ⟨.kind .connection, _, rfl, rfl⟩
    · exact ⟨.kind .segment, _, rfl, rfl⟩
  | node =>
    rcases List.mem_cons.mp listed with rfl | listed
    · exact ⟨.kind .interface, _, rfl, rfl⟩
    · exact byMembers listed
  | interface id =>
    rcases List.mem_append.mp listed with listed | listed
    · obtain ⟨layer, _, rfl⟩ := List.mem_map.mp listed
      exact ⟨.neighbors layer, _, rfl, rfl⟩
    · exact byMembers listed
  | connection =>
    rcases List.mem_append.mp listed with listed | listed
    · exact byMembers listed
    · cases List.mem_singleton.mp listed
      exact ⟨.kind .interface, _, rfl, rfl⟩
  | group =>
    cases List.mem_singleton.mp listed
    exact ⟨.kind .node, _, rfl, rfl⟩
  | segment =>
    rcases List.mem_cons.mp listed with rfl | listed
    · exact ⟨.kind .interface, _, rfl, rfl⟩
    · cases List.mem_singleton.mp listed
      exact ⟨.kind .connection, _, rfl, rfl⟩
  | neighbor => cases listed
  | member => cases listed

/-- The children of a child class are found by its key. -/
theorem children_key (childClass : ChildClass) {children : List Scope}
    (found : network.childrenIn scope childClass = some children) :
    network.children scope childClass.key = .ok children := by
  rw [Network.children, ChildClass.ofKey?_key, Option.bind_some, found]

/-- The objects that an object comes after can be told, and they are the ones below it
in the classes on which it depends. -/
theorem exists_before (network : Network) (scope : Scope) :
    ∃ found, ScopeOrder.before network scope = .ok found ∧
      ∀ child, child ∈ found ↔ network.ChildOf child scope := by
  have told : ∀ key ∈ network.dependencyClasses scope,
      ∃ children, network.children scope key = .ok children := by
    intro key listed
    obtain ⟨childClass, children, rfl, found⟩ := exists_childrenIn listed
    exact ⟨children, children_key childClass found⟩
  obtain ⟨lists, run⟩ := Outcome.exists_mapM told
  refine ⟨lists.flatten, Outcome.bind_eq_ok.mpr ⟨lists, run, rfl⟩, fun child => ?_⟩
  rw [List.mem_flatten]
  constructor
  · rintro ⟨children, member, listed⟩
    obtain ⟨key, keyListed, told⟩ := (Outcome.mem_mapM_iff run).mp member
    obtain ⟨childClass, others, rfl, found⟩ := exists_childrenIn keyListed
    cases told.symm.trans (children_key childClass found)
    exact ⟨childClass, keyListed, children, found, listed⟩
  · rintro ⟨childClass, keyListed, children, found, listed⟩
    exact ⟨children, (Outcome.mem_mapM_iff run).mpr ⟨_, keyListed, children_key childClass found⟩,
      listed⟩

/-- Children of a kind come before their parent. -/
theorem rank_lt_of_childrenOfKind {kind : ClassKind} {children : List Scope}
    (found : network.childrenOfKind scope kind = some children) :
    ∀ child ∈ children, child.rank < scope.rank := by
  unfold childrenOfKind at found
  split at found <;> cases found <;> simp [Scope.rank]

/-- The objects below an object have a lower rank. -/
theorem ChildOf.rank_lt (childOf : network.ChildOf child scope) : child.rank < scope.rank := by
  obtain ⟨childClass, _, children, found, listed⟩ := childOf
  cases childClass with
  | kind kind => exact rank_lt_of_childrenOfKind found child listed
  | neighbors layer =>
    cases scope with
    | interface id =>
      cases found
      obtain ⟨_, _, rfl⟩ := List.mem_map.mp listed
      exact Nat.zero_lt_one
    | _ =>
      cases found
      cases listed
  | members kind className =>
    cases found
    obtain ⟨id, member, rfl⟩ := List.mem_map.mp listed
    -- Only objects of a rank above the one of members have members.
    cases scope with
    | node | interface | connection => simp [Scope.rank]
    | _ => cases member

section Children

/-- The interfaces of a node are its children. -/
theorem childOf_node {id : NodeId} {port : InterfaceId}
    (listed : port ∈ (network.node id).interfaces) :
    network.ChildOf (.interface port) (.node id) :=
  ⟨.kind .interface, List.mem_cons_self, _, rfl, List.mem_map_of_mem listed⟩

/-- The ends of a connection are its children. -/
theorem childOf_connection {id : ConnectionId} {port : InterfaceId}
    (isEnd : (network.connection id).HasEnd port) :
    network.ChildOf (.interface port) (.connection id) := by
  refine ⟨.kind .interface, List.mem_append_right _ (List.mem_singleton_self _), _, rfl, ?_⟩
  rcases isEnd with rfl | rfl <;> simp

/-- The nodes of a group are its children. -/
theorem childOf_group {id : GroupId} {node : NodeId} (listed : node ∈ (network.group id).nodes) :
    network.ChildOf (.node node) (.group id) :=
  ⟨.kind .node, List.mem_singleton_self _, _, rfl, List.mem_map_of_mem listed⟩

/-- The interfaces of a segment are its children. -/
theorem childOf_segment_of_interface {id : SegmentId} {port : InterfaceId}
    (listed : port ∈ (network.segment id).interfaces) :
    network.ChildOf (.interface port) (.segment id) :=
  ⟨.kind .interface, List.mem_cons_self, _, rfl, List.mem_map_of_mem listed⟩

/-- The connections of a segment are its children. -/
theorem childOf_segment_of_connection {id : SegmentId} {connection : ConnectionId}
    (listed : connection ∈ (network.segment id).connections) :
    network.ChildOf (.connection connection) (.segment id) :=
  ⟨.kind .connection, List.mem_cons_of_mem _ List.mem_cons_self, _, rfl,
    List.mem_map_of_mem listed⟩

/-- A member is below its referrer. -/
theorem Coherent.childOf_referrer (coherent : network.Coherent) {id : MemberId}
    (inside : id < network.members.size) :
    network.ChildOf (.member id) (network.member id).referrer := by
  generalize owner : (network.member id).referrer = referrer
  have listed : id ∈ network.membersAt referrer := coherent.members.mem_iff.mpr ⟨inside, owner⟩
  refine ⟨.members (network.member id).kind (network.member id).className, ?_, _, rfl,
    List.mem_map_of_mem (List.mem_filter.mpr ⟨listed, by simp⟩)⟩
  have key := (network.mem_memberKeys).mpr ⟨id, listed, rfl⟩
  cases referrer with
  | node => exact List.mem_cons_of_mem _ key
  | interface => exact List.mem_append_right _ key
  | connection => exact List.mem_append_left _ key
  | _ => cases listed

/-- A neighbor is below its interface. -/
theorem Consistent.childOf_self (consistent : network.Consistent) {id : NeighborId}
    (inside : id < network.neighbors.size) :
    network.ChildOf (.neighbor id) (.interface (network.neighbor id).self) := by
  have listed :
      id ∈ network.neighborsAt ((network.neighbor id).self, (network.neighbor id).layer) :=
    consistent.coherent.neighbors.mem_iff.mpr ⟨inside, rfl⟩
  refine ⟨.neighbors (network.neighbor id).layer, List.mem_append_left _ ?_, _, rfl,
    List.mem_map_of_mem listed⟩
  exact List.mem_map_of_mem (Std.ExtTreeSet.mem_toList.mpr (consistent.asked id inside))

end Children

end Network

end TopoPlan
