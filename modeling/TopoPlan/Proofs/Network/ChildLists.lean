import Mathlib.Data.List.Count
import TopoPlan.Proofs.Network.ChildClasses

/-!
# Children by their classes

The child classes of an object divide what belongs to it.  A class is told by its key alone, and
keys of different classes are different whatever their parts are called.  So the lists of all
child classes together hold every member and every neighbor of an object once and none of another
object, which is the main statement, `dividedChildren_of_searched`.
-/

namespace TopoPlan

namespace ChildClass

/-- Different child classes have different keys. -/
theorem key_inj {left right : ChildClass} : left.key = right.key ↔ left = right := by
  refine ⟨fun same => ?_, congrArg key⟩
  rw [← Option.some_inj, ← ofKey?_key, ← ofKey?_key, same]

end ChildClass

namespace Network

/-- The children of an object in all of its child classes: every member and every neighbor that
belongs to the object occurs once, and no other one. -/
structure DividedChildren (network : Network) (scope : Scope) (lists : List (List Scope)) :
    Prop where
  /-- The children of every child class can be told. -/
  told : (network.childClasses scope).mapM (network.children scope) = .ok lists
  /-- A member is in one of the lists, and there once, when the object is its referrer. -/
  members : ∀ id, lists.flatten.count (.member id) =
    if id < network.members.size ∧ (network.member id).referrer = scope then 1 else 0
  /-- A neighbor is in one of the lists, and there once, when the object is its interface. -/
  neighbors : ∀ id, lists.flatten.count (.neighbor id) =
    if id < network.neighbors.size ∧ .interface (network.neighbor id).self = scope then 1 else 0

variable {network : Network} {scope child : Scope} {key : String} {childClass own : ChildClass}
  {children : List Scope}

/-! ## Keys -/

/-- No key of members is listed twice. -/
theorem nodup_memberKeys (network : Network) (members : List MemberId) :
    (network.memberKeys members).Nodup :=
  NameSet.nodup_toList _

/-- The keys of other classes are no keys of members. -/
theorem key_not_mem_memberKeys {members : List MemberId}
    (other : ∀ kind className, childClass ≠ .members kind className) :
    childClass.key ∉ network.memberKeys members := by
  intro listed
  obtain ⟨id, _, same⟩ := mem_memberKeys.mp listed
  exact other _ _ (ChildClass.key_inj.mp same).symm

/-- The child classes of an object are different. -/
theorem nodup_childClasses (network : Network) (scope : Scope) :
    (network.childClasses scope).Nodup := by
  have besides (members : List MemberId) :
      ("interface" :: network.memberKeys members).Nodup := by
    have other : ∀ kind className, ChildClass.kind .interface ≠ .members kind className :=
      fun _ _ => ChildClass.noConfusion
    exact List.nodup_cons.mpr ⟨key_not_mem_memberKeys other, nodup_memberKeys network members⟩
  cases scope with
  | network | segment | group | neighbor | member => simp [childClasses]
  | node id => exact besides (network.node id).members
  | connection id => exact besides (network.connection id).members
  | interface id =>
    refine List.nodup_append.mpr ⟨?_, nodup_memberKeys network _, ?_⟩
    · refine (NameSet.nodup_toList _).map fun left right same => ?_
      exact ChildClass.neighbors.inj (ChildClass.key_inj.mp same)
    · rintro _ ofNeighbors _ ofMembers rfl
      obtain ⟨layer, _, rfl⟩ := List.mem_map.mp ofNeighbors
      exact key_not_mem_memberKeys (fun _ _ => ChildClass.noConfusion) ofMembers

/-- Among the child classes are those on which an object depends; the network alone has
another one. -/
theorem mem_dependencyClasses (listed : key ∈ network.childClasses scope) :
    key ∈ network.dependencyClasses scope ∨ scope = .network ∧ key = "interface" := by
  cases scope with
  | network =>
    simp only [childClasses, dependencyClasses, List.mem_cons, List.not_mem_nil, or_false]
      at listed ⊢
    tauto
  | connection id =>
    refine .inl (List.mem_append.mpr ?_)
    rcases List.mem_cons.mp listed with rfl | member
    · exact .inr (List.mem_singleton_self _)
    · exact .inl member
  | _ => exact .inl listed

/-- An object has the child classes that it tells. -/
theorem exists_childrenIn_of_mem (listed : key ∈ network.childClasses scope) :
    ∃ childClass children, ChildClass.key childClass = key ∧
      network.childrenIn scope childClass = some children := by
  rcases mem_dependencyClasses listed with depends | ⟨rfl, rfl⟩
  · exact exists_childrenIn depends
  · exact ⟨.kind .interface, _, rfl, rfl⟩

/-- The members of an object are in the classes that it tells. -/
theorem mem_childClasses_of_member {id : MemberId} (listed : id ∈ network.membersAt scope) :
    (ChildClass.members (network.member id).kind (network.member id).className).key ∈
      network.childClasses scope := by
  have key := (network.mem_memberKeys).mpr ⟨id, listed, rfl⟩
  cases scope with
  | node | connection => exact List.mem_cons_of_mem _ key
  | interface => exact List.mem_append_right _ key
  | _ => cases listed

/-! ## Occurrences -/

/-- Objects of a kind are no members and no neighbors. -/
theorem rank_pos_of_childrenOfKind {kind : ClassKind}
    (found : network.childrenOfKind scope kind = some children) :
    ∀ child ∈ children, 0 < child.rank := by
  unfold childrenOfKind at found
  split at found <;> cases found <;> simp [Scope.rank]

/-- A member occurs among the children of its own class as often as it is entered. -/
theorem count_member_childrenIn (id : MemberId)
    (found : network.childrenIn scope childClass = some children) :
    children.count (.member id) =
      if childClass = .members (network.member id).kind (network.member id).className then
        (network.membersAt scope).count id
      else 0 := by
  have injective : Function.Injective Scope.member := fun _ _ => Scope.member.inj
  cases childClass with
  | kind kind =>
    rw [if_neg ChildClass.noConfusion, List.count_eq_zero]
    exact fun listed => Nat.lt_irrefl 0 (rank_pos_of_childrenOfKind found _ listed)
  | neighbors layer =>
    rw [if_neg ChildClass.noConfusion, List.count_eq_zero]
    cases scope <;> cases found <;> simp
  | members kind className =>
    cases found
    rw [List.count_map_of_injective _ _ injective]
    split
    case isTrue same =>
      cases same
      exact List.count_filter (by simp)
    case isFalse different =>
      rw [List.count_eq_zero, List.mem_filter]
      rintro ⟨_, own⟩
      simp only [Bool.and_eq_true, decide_eq_true_eq, beq_iff_eq] at own
      exact different (by rw [own.1, own.2])

/-- A neighbor occurs among the children of the class of its layer as often as it is entered at
the interface. -/
theorem count_neighbor_childrenIn (coherent : network.Coherent) (id : NeighborId)
    (found : network.childrenIn scope childClass = some children) :
    children.count (.neighbor id) =
      if childClass = .neighbors (network.neighbor id).layer then
        if id < network.neighbors.size ∧ .interface (network.neighbor id).self = scope then 1 else 0
      else 0 := by
  have injective : Function.Injective Scope.neighbor := fun _ _ => Scope.neighbor.inj
  cases childClass with
  | kind kind =>
    rw [if_neg ChildClass.noConfusion, List.count_eq_zero]
    exact fun listed => Nat.lt_irrefl 0 (rank_pos_of_childrenOfKind found _ listed)
  | members kind className =>
    cases found
    rw [if_neg ChildClass.noConfusion, List.count_eq_zero]
    simp
  | neighbors layer =>
    cases scope with
    | interface port =>
      cases found
      have entered := coherent.neighbors (port, layer) id
      rw [List.count_map_of_injective _ _ injective]
      refine entered.trans ?_
      simp only [Prod.mk.injEq, Scope.interface.injEq, ChildClass.neighbors.injEq]
      by_cases same : layer = (network.neighbor id).layer <;> simp [same, eq_comm]
    | _ =>
      cases found
      simp

/-- An object that occurs in one class alone occurs in all lists together as often as this
class is told. -/
theorem count_flatten {object : Scope} {amount : Nat} {keys : List String}
    {lists : List (List Scope)} (told : keys.mapM (network.children scope) = .ok lists)
    (has : ∀ key ∈ keys, ∃ childClass children, ChildClass.key childClass = key ∧
      network.childrenIn scope childClass = some children)
    (counts : ∀ childClass children, network.childrenIn scope childClass = some children →
      children.count object = if childClass = own then amount else 0) :
    lists.flatten.count object = keys.count own.key * amount := by
  have each := Outcome.mapM_eq_ok told
  clear told
  induction each with
  | nil => simp
  | @cons key children keys lists first _ inductionHypothesis =>
    obtain ⟨⟨childClass, others, rfl, found⟩, hasRest⟩ := List.forall_mem_cons.mp has
    cases first.symm.trans (children_key childClass found)
    rw [List.flatten_cons, List.count_append, inductionHypothesis hasRest,
      counts childClass children found, List.count_cons, Nat.add_mul, Nat.add_comm]
    by_cases same : childClass = own <;> simp [same, ChildClass.key_inj]

/-- What belongs to an object in one of its child classes occurs in all lists together once. -/
theorem count_flatten_of_belongs (own : ChildClass) {object : Scope} {belongs : Prop}
    [Decidable belongs] {lists : List (List Scope)}
    (told : (network.childClasses scope).mapM (network.children scope) = .ok lists)
    (listed : belongs → own.key ∈ network.childClasses scope)
    (counts : ∀ childClass children, network.childrenIn scope childClass = some children →
      children.count object = if childClass = own then (if belongs then 1 else 0) else 0) :
    lists.flatten.count object = if belongs then 1 else 0 := by
  rw [count_flatten told (fun _ => exists_childrenIn_of_mem) counts]
  split
  case isTrue here =>
    rw [List.count_eq_one_of_mem (nodup_childClasses network scope) (listed here)]
  case isFalse => rw [Nat.mul_zero]

/-- In a network with consistent references the child classes divide what belongs to an
object. -/
theorem Consistent.dividedChildren (consistent : network.Consistent) (scope : Scope) :
    ∃ lists, network.DividedChildren scope lists := by
  have told : ∀ key ∈ network.childClasses scope,
      ∃ children, network.children scope key = .ok children := by
    intro key listed
    obtain ⟨childClass, children, rfl, found⟩ := exists_childrenIn_of_mem listed
    exact ⟨children, children_key childClass found⟩
  obtain ⟨lists, run⟩ := Outcome.exists_mapM told
  refine ⟨lists, run, fun id => ?_, fun id => ?_⟩
  · let member := network.member id
    refine count_flatten_of_belongs (.members member.kind member.className) run
      (fun belongs => ?_) fun childClass children found => ?_
    · exact mem_childClasses_of_member (consistent.coherent.members.mem_iff.mpr belongs)
    · rw [count_member_childrenIn id found, consistent.coherent.members]
  · refine count_flatten_of_belongs (.neighbors (network.neighbor id).layer) run ?_
      fun _ _ => count_neighbor_childrenIn consistent.coherent id
    rintro ⟨inside, rfl⟩
    exact List.mem_append_left _ (List.mem_map_of_mem
      (Std.ExtTreeSet.mem_toList.mpr (consistent.asked id inside)))

/-- In a searched network every object divides its members and neighbors into child classes. -/
theorem dividedChildren_of_searched {config : Config} (searched : Searched config network)
    (scope : Scope) : ∃ lists, network.DividedChildren scope lists :=
  (consistent_of_searched searched).dividedChildren scope

end Network

namespace Registry

open Network

/-- Layers and classes whose names look like parts of keys. -/
def config : Config where
  name := "registry"
  layers :=
    [{ name := "member_node_x"
       connectsByDefault := true
       policies := [{ name := "quay", range := "10.0.0.0/16", subnetLength := 24 }] },
      { name := ""
        connectsByDefault := true
        policies := [{ name := "dock", range := "10.1.0.0/16", subnetLength := 24 }] }]
  nodeClasses :=
    [{ name := "x"
       interfacePolicies := ["quay", "dock"]
       members := [{ nodes := ["x", "node_x", "_"] }] },
      { name := "node_x" }, { name := "_" }]
  interfaceClasses :=
    [{ name := "all"
       neighbors := [{ layer := "member_node_x" }, { layer := "" }]
       members := [{ node := "x", includeSelf := true }] }]

/-- Two linked nodes of these classes. -/
def topology : Topology where
  nodes := [{ name := "a", labels := ["x", "node_x"] }, { name := "b", labels := ["x", "_"] }]
  edges := [{ source := "a", target := "b" }]

/-- The network of the topology. -/
def built : Network := (ofTopology config topology).toOption.getD {}

/-- The network after resolution. -/
def resolved : Network := ((resolve config {}).outcome built).2

/-- The network with its segments. -/
def searched : Network := ((Segments.addAll config).outcome resolved).2

/-- The topology is searched without error. -/
theorem searched_of_topology : Searched config searched :=
  ⟨topology, {}, built, resolved, Outcome.eq_ok_of_isOk {} (by decide +kernel),
    Stage.outcome_eq_ok (by decide +kernel), Stage.outcome_eq_ok (by decide +kernel)⟩

/-- The first node has members of the classes `_` and `x`, and its interface has neighbors in both
layers and members of class `x`. -/
theorem dividedChildren_of_linked :
    Searched config searched ∧
      searched.childClasses (.node 0) = ["interface", "member_node__", "member_node_x"] ∧
      (∃ lists, searched.DividedChildren (.node 0) lists) ∧
      searched.childClasses (.interface 0) =
        ["neighbor_", "neighbor_member_node_x", "member_node_x"] ∧
      ∃ lists, searched.DividedChildren (.interface 0) lists :=
  ⟨searched_of_topology, by decide +kernel,
    dividedChildren_of_searched searched_of_topology (.node 0), by decide +kernel,
    dividedChildren_of_searched searched_of_topology (.interface 0)⟩

end Registry

end TopoPlan
