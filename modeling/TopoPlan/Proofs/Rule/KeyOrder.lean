import Mathlib
import TopoPlan.Proofs.Rule.SharedValues

/-!
# Values of rules in the order of keys

Nodes, connections, groups and segments that request a plain rule get its candidates in the
order of their keys.  `DealtByKey` says so, and the main statement, `dealsByKey_of_assignAll`,
also says that with different keys nothing but the keys counts.
-/

namespace TopoPlan

namespace Network

/-- All objects of a kind. -/
def objectsOf (network : Network) : ClassKind → List Scope
  | .network => [.network]
  | .node => network.nodeIds.map .node
  | .interface => network.interfaceIds.map .interface
  | .connection => network.connectionIds.map .connection
  | .group => network.groupIds.map .group
  | .segment => network.segmentIds.map .segment

/-- The objects of a kind that request a rule. -/
def requesting (network : Network) (kind : ClassKind) (name : String) : List Scope :=
  (network.objectsOf kind).filter fun scope => (network.parametersOf scope).hasFlag name

/-- Objects in the order of their keys, and those of one key in the order of a list. -/
structure InKeyOrder (network : Network) (objects sorted : List Scope) : Prop where
  perm : sorted.Perm objects
  ordered : sorted.Pairwise fun left right =>
    network.sortKey left < network.sortKey right ∨
      network.sortKey left = network.sortKey right ∧ Precedes objects left right

section Objects

variable {network : Network} {kind : ClassKind} {scope : Scope}

/-- No object of a kind is listed twice. -/
theorem nodup_objectsOf (network : Network) (kind : ClassKind) :
    (network.objectsOf kind).Nodup := by
  have numbered {kind : Nat → Scope} (injective : Function.Injective kind) (size : Nat) :
      ((List.range size).map kind).Nodup := List.nodup_range.map injective
  cases kind with
  | network => exact List.nodup_singleton _
  | node => exact numbered (fun _ _ => Scope.node.inj) _
  | interface => exact numbered (fun _ _ => Scope.interface.inj) _
  | connection => exact numbered (fun _ _ => Scope.connection.inj) _
  | group => exact numbered (fun _ _ => Scope.group.inj) _
  | segment => exact numbered (fun _ _ => Scope.segment.inj) _

/-- The objects of a kind are all that the network has of it. -/
theorem mem_objectsOf :
    scope ∈ network.objectsOf kind ↔ scope.classKind? = some kind ∧ network.Has scope := by
  cases kind <;> cases scope <;>
    simp [objectsOf, Scope.classKind?, Has, nodeIds, interfaceIds, connectionIds, groupIds,
      segmentIds]

/-- No object that requests a rule is listed twice. -/
theorem nodup_requesting (network : Network) (kind : ClassKind) (name : String) :
    (network.requesting kind name).Nodup :=
  (nodup_objectsOf network kind).filter _

end Objects

section Sorting

variable {network : Network} {objects sorted other : List Scope}

/-- There is no other order of different objects. -/
theorem InKeyOrder.eq (once : objects.Nodup) (left : network.InKeyOrder objects sorted)
    (right : network.InKeyOrder objects other) : sorted = other := by
  refine List.Perm.eq_of_pairwise ?_ left.ordered right.ordered (left.perm.trans right.perm.symm)
  intro first second _ _ forth back
  rcases forth with less | ⟨same, precedes⟩
  · rcases back with greater | ⟨same, _⟩
    · exact absurd greater (lt_asymm less)
    · exact absurd same.symm less.ne
  · rcases back with greater | ⟨_, follows⟩
    · exact absurd same.symm greater.ne
    · exact absurd (precedes.trans once follows) (not_precedes_self once)

/-- The sort by keys keeps the order of objects with one key. -/
theorem inKeyOrder_of_sort (network : Network) (once : objects.Nodup) :
    network.InKeyOrder objects (Distribution.inKeyOrder network objects) := by
  let keyed := objects.map fun object => (network.sortKey object, object)
  let below (left right : String × Scope) : Bool := decide (left.1 ≤ right.1)
  have transitive (left middle right : String × Scope) (first : below left middle = true)
      (second : below middle right = true) : below left right = true := by
    rw [decide_eq_true_iff] at first second ⊢
    exact le_trans first second
  have total (left right : String × Scope) : (below left right || below right left) = true := by
    rw [Bool.or_eq_true, decide_eq_true_iff, decide_eq_true_iff]
    exact le_total left.1 right.1
  have sortedOnce : (Distribution.inKeyOrder network objects).Nodup :=
    (Distribution.inKeyOrder_perm network objects).nodup_iff.mpr once
  have keys : (Distribution.inKeyOrder network objects).Pairwise fun left right =>
      network.sortKey left ≤ network.sortKey right := by
    refine List.pairwise_map.mpr ((List.pairwise_mergeSort transitive total keyed).imp_of_mem ?_)
    intro left right leftListed rightListed order
    obtain ⟨_, _, rfl⟩ := List.mem_map.mp (List.mem_mergeSort.mp leftListed)
    obtain ⟨_, _, rfl⟩ := List.mem_map.mp (List.mem_mergeSort.mp rightListed)
    exact of_decide_eq_true order
  refine ⟨Distribution.inKeyOrder_perm network objects, List.pairwise_iff_forall_sublist.mpr ?_⟩
  intro left right later
  have precedes : Precedes (Distribution.inKeyOrder network objects) left right := later
  rcases lt_or_eq_of_le (keys.forall_sublist later) with less | same
  · exact .inl less
  · refine .inr ⟨same, ?_⟩
    have perm := Distribution.inKeyOrder_perm network objects
    rcases precedes_or_precedes (perm.mem_iff.mp precedes.left) (perm.mem_iff.mp precedes.right)
      (fun equal => not_precedes_self sortedOnce (equal ▸ precedes)) with before | after
    · exact before
    · -- A sort that is stable would have kept the second object before the first one.
      have pair : [(network.sortKey right, right), (network.sortKey left, left)].Sublist keyed :=
        List.Sublist.map (fun object => (network.sortKey object, object)) after
      have kept := List.pair_sublist_mergeSort transitive total
        (decide_eq_true (le_of_eq same.symm)) pair
      have back : Precedes (Distribution.inKeyOrder network objects) right left :=
        kept.map Prod.snd
      exact absurd (precedes.trans sortedOnce back) (not_precedes_self sortedOnce)

/-- The order depends on the keys alone. -/
theorem InKeyOrder.congr {after : Network} (order : network.InKeyOrder objects sorted)
    (keys : ∀ scope ∈ objects, after.sortKey scope = network.sortKey scope) :
    after.InKeyOrder objects sorted where
  perm := order.perm
  ordered := by
    refine order.ordered.imp_of_mem fun {left right} leftListed rightListed before => ?_
    rw [keys left (order.perm.mem_iff.mp leftListed),
      keys right (order.perm.mem_iff.mp rightListed)]
    exact before

end Sorting

/-! ## Objects and their keys -/

/-- There are the same objects that get candidates each alone, with the same keys. -/
structure SameKeys (before after : Network) : Prop where
  nodeCount : after.nodes.size = before.nodes.size
  connectionCount : after.connections.size = before.connections.size
  groupCount : after.groups.size = before.groups.size
  segmentCount : after.segments.size = before.segments.size
  node : ∀ id, (after.node id).name = (before.node id).name
  connection : ∀ id, (after.connection id).name = (before.connection id).name
  group : ∀ id, (after.group id).name = (before.group id).name
  segment : ∀ id, (after.segment id).name = (before.segment id).name

/-- The frame of stages that leave objects and keys alone. -/
def sameKeys : Frame where
  holds := SameKeys
  refl _ := ⟨rfl, rfl, rfl, rfl, fun _ => rfl, fun _ => rfl, fun _ => rfl, fun _ => rfl⟩
  trans first second :=
    ⟨second.nodeCount.trans first.nodeCount, second.connectionCount.trans first.connectionCount,
      second.groupCount.trans first.groupCount, second.segmentCount.trans first.segmentCount,
      fun id => (second.node id).trans (first.node id),
      fun id => (second.connection id).trans (first.connection id),
      fun id => (second.group id).trans (first.group id),
      fun id => (second.segment id).trans (first.segment id)⟩

/-- Values are no keys. -/
theorem sameKeys_valueless : sameKeys.Valueless where
  parameters network scope change := by
    cases scope with
    | node id =>
      exact { sameKeys.refl network with
        nodeCount := network.size_nodes_updateNode id _
        node := network.node_updateNode_field (fun _ => by rfl) id }
    | connection id =>
      exact { sameKeys.refl network with
        connectionCount := network.size_connections_updateConnection id _
        connection := network.connection_updateConnection_field (fun _ => by rfl) id }
    | group id =>
      exact { sameKeys.refl network with
        groupCount := Array.size_modify
        group := network.group_updateGroup_field (fun _ => by rfl) id }
    | segment id =>
      exact { sameKeys.refl network with
        segmentCount := Array.size_modify
        segment := network.segment_updateSegment_field (fun _ => by rfl) id }
    | network | interface | neighbor | member => exact { sameKeys.refl network with }
  subnet network id _ _ :=
    { sameKeys.refl network with
      segmentCount := Array.size_modify
      segment := network.segment_updateSegment_field (fun _ => by rfl) id }
  nodes network _ :=
    { sameKeys.refl network with
      nodeCount := Array.size_map
      node := fun id => getD_map_field Node.name (fun _ => by rfl) network.nodes id default }
  attachments network _ := { sameKeys.refl network with }

end Network

namespace Assignment

open Network Stage TopoPlan.Distribution

/-- The kinds whose objects get candidates each alone. -/
def singleKinds : List ClassKind := [.node, .connection, .group, .segment]

/-- The objects of a kind that request a rule have its candidates in the order of their keys.
No two of them have the same one, and the others keep what they had. -/
structure DealtByKey (config : Config) (files : TextFiles) (rule : ParameterRule)
    (kind : ClassKind) (before after : Network) : Prop where
  sortable : ∃ sorted, before.InKeyOrder (before.requesting kind rule.name) sorted
  dealt : ∀ sorted : List Scope, before.InKeyOrder (before.requesting kind rule.name) sorted →
    ∀ (position : Nat) scope, sorted[position]? = some scope → ∃ candidates value,
      Candidate.values config files rule sorted.length = .ok candidates ∧
        candidates[position]? = some value ∧ after.ownValue? rule.name scope = some value
  different : ∀ left ∈ before.requesting kind rule.name,
    ∀ right ∈ before.requesting kind rule.name,
      after.ownValue? rule.name left = after.ownValue? rule.name right → left = right
  kept : ∀ scope ∈ before.objectsOf kind, scope ∉ before.requesting kind rule.name →
    after.ownValue? rule.name scope = before.ownValue? rule.name scope

/-- The frame of stages that leave objects and keys alone, and what the objects of a kind
request and have of one parameter. -/
def dealing (name : String) (kind : ClassKind) : Frame where
  holds before after := SameKeys before after ∧
    ∀ scope : Scope, scope.classKind? = some kind → (unaltered name scope).holds before after
  refl network := ⟨sameKeys.refl network, fun scope _ => (unaltered name scope).refl network⟩
  trans first second := ⟨sameKeys.trans first.1 second.1, fun scope ofKind =>
    (unaltered name scope).trans (first.2 scope ofKind) (second.2 scope ofKind)⟩

section Kinds

variable {config : Config} {files : TextFiles} {network before after : Network}
  {kind : ClassKind} {name : String}

/-- A stage leaves a rule to be dealt if it keeps the keys and the values of the rule. -/
theorem within_dealing {α : Type} {stage : Stage α} (keys : Within sameKeys stage)
    (each : ∀ scope, scope.classKind? = some kind → Within (unaltered name scope) stage) :
    Within (dealing name kind) stage :=
  fun network => ⟨keys network, fun scope ofKind => each scope ofKind network⟩

section Congruence

variable (single : kind ∈ singleKinds) (same : SameKeys before after)

include single same

theorem objectsOf_congr : after.objectsOf kind = before.objectsOf kind := by
  simp only [singleKinds, List.mem_cons, List.not_mem_nil, or_false] at single
  rcases single with rfl | rfl | rfl | rfl
  · rw [objectsOf, objectsOf, nodeIds, nodeIds, same.nodeCount]
  · rw [objectsOf, objectsOf, connectionIds, connectionIds, same.connectionCount]
  · rw [objectsOf, objectsOf, groupIds, groupIds, same.groupCount]
  · rw [objectsOf, objectsOf, segmentIds, segmentIds, same.segmentCount]

/-- The keys of the objects of a kind stay the same. -/
theorem sortKey_congr {scope : Scope} (ofKind : scope.classKind? = some kind) :
    after.sortKey scope = before.sortKey scope := by
  cases scope with
  | node id => exact same.node id
  | connection id => exact same.connection id
  | group id => exact same.group id
  | segment id => exact same.segment id
  | network | interface =>
    cases ofKind
    exact absurd single (by decide)
  | neighbor | member => cases ofKind

/-- The same objects in the same order. -/
theorem inKeyOrder_congr {objects : List Scope}
    (ofKind : ∀ scope ∈ objects, scope.classKind? = some kind) :
    Distribution.inKeyOrder after objects = Distribution.inKeyOrder before objects := by
  have keyed : objects.map (fun object => (after.sortKey object, object)) =
      objects.map fun object => (before.sortKey object, object) :=
    List.map_congr_left fun object listed => by
      rw [sortKey_congr single same (ofKind object listed)]
  unfold Distribution.inKeyOrder
  rw [keyed]

end Congruence

/-- The objects that request a rule are of its kind. -/
theorem classKind?_of_requesting {scope : Scope} (listed : scope ∈ network.requesting kind name) :
    scope.classKind? = some kind :=
  (mem_objectsOf.mp (List.mem_filter.mp listed).1).1

/-- The same objects of the kind request every rule. -/
theorem requesting_congr (single : kind ∈ singleKinds)
    (same : (dealing name kind).holds before after) (rule : String) :
    after.requesting kind rule = before.requesting kind rule := by
  rw [requesting, requesting, objectsOf_congr single same.1]
  refine List.filter_congr fun scope listed => ?_
  exact congrArg (·.contains rule) (same.2 scope (mem_objectsOf.mp listed).1).1

/-! ## One kind -/

/-- The distribution of another rule leaves a rule to be dealt. -/
theorem distributeRule_dealing {grouping : Grouping} {other : String} (objects : List Scope)
    (different : other ≠ name) :
    Within (dealing name kind) (distributeRule config files grouping other objects) :=
  within_dealing (distributeRule_within sameKeys_valueless config files grouping other objects)
    fun _ _ => distributeRule_holds fun _ _ _ _ _ _ _ _ _ _ => unaltered_set fun _ => different

/-- Names given as parameters leave a rule to be dealt. -/
theorem nameObjects_dealing (sound : ParamName.fault? name = none) (scopes : List Scope) :
    (dealing name kind).holds network (nameObjects network scopes) :=
  ⟨nameObjects_holds sameKeys_valueless network scopes, fun scope _ =>
    (unaltered name scope).foldl (fun current => current)
      (fun _ _ => unaltered_set fun _ => (ParamName.ne_objectName_of_fault? sound).symm)
      network scopes⟩

/-- Objects of which each is a group have the candidates at their positions. -/
theorem ownValue?_of_alone {sorted : List Scope} {candidates : List String} (once : sorted.Nodup)
    (length : candidates.length = sorted.length) (has : ∀ scope ∈ sorted, network.Has scope)
    {position : Nat} {scope : Scope} (found : sorted[position]? = some scope) :
    ∃ value, candidates[position]? = some value ∧
      (giveAll name network ((alone sorted).zip candidates)).ownValue? name scope = some value := by
  obtain ⟨below, rfl⟩ := List.getElem?_eq_some_iff.mp found
  have there : position < candidates.length := length.symm ▸ below
  refine ⟨candidates[position], List.getElem?_eq_getElem there, ?_⟩
  have counts : (alone sorted).length = candidates.length := by
    rw [alone, List.length_map, length]
  have entry : ([sorted[position]], candidates[position]) ∈ (alone sorted).zip candidates := by
    refine List.mem_of_getElem? (i := position) ?_
    rw [List.getElem?_zip_eq_some, alone, List.getElem?_map, found]
    exact ⟨rfl, List.getElem?_eq_getElem there⟩
  refine ownValue?_giveAll ?_ entry (List.mem_singleton_self _) (has _ (List.getElem_mem below))
  rw [List.map_fst_zip (Nat.le_of_eq counts)]
  exact List.pairwise_map.mpr (once.imp fun different => List.disjoint_singleton.mpr
    fun same => different (List.mem_singleton.mp same).symm)

variable {rule : ParameterRule}

/-- What is dealt to objects in the sorted order is dealt by key. -/
theorem dealtByKey_of_sorted (candidates : List String)
    (values : before.requesting kind rule.name ≠ [] → Candidate.values config files rule
      (before.requesting kind rule.name).length = .ok candidates)
    (given : ∀ (position : Nat) scope,
      (Distribution.inKeyOrder before (before.requesting kind rule.name))[position]? = some scope →
        ∃ value, candidates[position]? = some value ∧
          after.ownValue? rule.name scope = some value)
    (kept : ∀ scope ∈ before.objectsOf kind, scope ∉ before.requesting kind rule.name →
      after.ownValue? rule.name scope = before.ownValue? rule.name scope) :
    DealtByKey config files rule kind before after := by
  have once := nodup_requesting before kind rule.name
  have sort := inKeyOrder_of_sort before once
  refine ⟨⟨_, sort⟩, ?dealt, ?different, kept⟩
  case dealt =>
    intro sorted inOrder position scope found
    obtain rfl := sort.eq once inOrder
    obtain ⟨value, candidate, own⟩ := given position scope found
    refine ⟨candidates, value, ?_, candidate, own⟩
    rw [inOrder.perm.length_eq]
    exact values (List.ne_nil_of_mem (inOrder.perm.mem_iff.mp (List.mem_of_getElem? found)))
  case different =>
    intro left leftListed right rightListed same
    obtain ⟨_, distinct⟩ := Candidate.values_eq_ok (values (List.ne_nil_of_mem leftListed))
    obtain ⟨position, leftFound⟩ := List.mem_iff_getElem?.mp (sort.perm.mem_iff.mpr leftListed)
    obtain ⟨other, rightFound⟩ := List.mem_iff_getElem?.mp (sort.perm.mem_iff.mpr rightListed)
    obtain ⟨value, candidate, own⟩ := given position left leftFound
    obtain ⟨otherValue, otherCandidate, otherOwn⟩ := given other right rightFound
    rw [own, otherOwn] at same
    rw [← same, ← candidate] at otherCandidate
    have below := (List.getElem?_eq_some_iff.mp candidate).1
    obtain rfl := (List.getElem?_inj below distinct).mp otherCandidate.symm
    exact Option.some.inj (leftFound.symm.trans rightFound)

/-- The objects of a kind get their candidates by key. -/
theorem dealtByKey_of_assignKind (valid : config.validate = .ok ()) (listed : rule ∈ config.rules)
    (plain : rule.attaches = false) (single : kind ∈ singleKinds)
    (run : (assignKind config files (·.objectsOf kind)).outcome network = (.ok (), after)) :
    DealtByKey config files rule kind network after := by
  have sound := Config.fault?_of_rule valid listed
  rw [assignKind, outcome_modify_bind, outcome_get_bind] at run
  let named := nameObjects network (network.objectsOf kind)
  let asking := network.requesting kind rule.name
  have start : (dealing rule.name kind).holds network named := nameObjects_dealing sound _
  have asked : ((named.objectsOf kind).filter fun scope =>
      (named.parametersOf scope).hasFlag rule.name) = asking := requesting_congr single start _
  have others (other : String) (objects : List Scope) (different : other ≠ rule.name) :
      Within (dealing rule.name kind) (distributeRule config files eachAlone other objects) :=
    distributeRule_dealing objects different
  have ofKind : ∀ scope ∈ asking, scope.classKind? = some kind :=
    fun _ => classKind?_of_requesting
  rcases distribute_eq_ok others run with ⟨empty, later⟩ | ⟨before, next, earlier, turn, later⟩
  · -- Nobody requests the rule.
    have none : asking = [] := asked.symm.trans empty
    have same := (dealing rule.name kind).trans start later
    refine dealtByKey_of_sorted [] (fun some => absurd none some) (fun position scope found => ?_)
      fun scope known _ => (same.2 scope (mem_objectsOf.mp known).1).2
    have member := (inKeyOrder_perm network asking).mem_iff.mp (List.mem_of_getElem? found)
    rw [none] at member
    cases member
  · have same := (dealing rule.name kind).trans start earlier
    rw [asked] at turn
    obtain ⟨groups, candidates, grouping, values, rfl⟩ :=
      distributeRule_eq_ok (Config.rule?_of_mem valid listed) plain turn
    cases grouping
    have sorted := inKeyOrder_congr single same.1 ofKind
    have perm := inKeyOrder_perm network asking
    rw [sorted] at values later
    rw [alone, List.length_map, perm.length_eq] at values
    refine dealtByKey_of_sorted candidates (fun _ => values) (fun position scope found => ?_)
      fun scope known idle => ?_
    · have here := ofKind scope (perm.mem_iff.mp (List.mem_of_getElem? found))
      have has : ∀ other ∈ Distribution.inKeyOrder network asking, before.Has other := by
        intro other member
        have known := (List.mem_filter.mp (perm.mem_iff.mp member)).1
        rw [← objectsOf_congr single same.1] at known
        exact (mem_objectsOf.mp known).2
      have once := perm.nodup_iff.mpr (nodup_requesting network kind rule.name)
      have length := (Candidate.values_eq_ok values).1.trans perm.length_eq.symm
      obtain ⟨value, candidate, own⟩ := ownValue?_of_alone once length has found
      exact ⟨value, candidate, (later.2 scope here).2.trans own⟩
    · have here := (mem_objectsOf.mp known).1
      refine (later.2 scope here).2.trans (Eq.trans ?_ (same.2 scope here).2)
      refine (unaltered_giveAll fun entry zipped member => ?_).2
      obtain ⟨object, among, alone⟩ := List.mem_map.mp (List.of_mem_zip zipped).1
      rw [← alone, List.mem_singleton] at member
      exact idle (perm.mem_iff.mp (member ▸ among))

end Kinds

/-! ## All kinds -/

section All

variable {config : Config} {files : TextFiles} {generators : Generators}
  {network after : Network} {kind : ClassKind} {name : String} {rule : ParameterRule}

/-- The objects of another kind. -/
theorem assignKind_dealing (sound : ParamName.fault? name = none) {other : ClassKind}
    (different : other ≠ kind) :
    Within (dealing name kind) (assignKind config files (·.objectsOf other)) := by
  refine within_dealing (assignKind_within sameKeys_valueless config files _) fun scope ofKind => ?_
  refine assignKind_unaltered sound fun network listed => different ?_
  exact Option.some.inj ((mem_objectsOf.mp listed).1.symm.trans ofKind)

/-- Interfaces share candidates with interfaces only. -/
theorem mem_of_shared {look : Network} {objects : List Scope} {groups : List (List Scope)}
    (run : shared config look rule objects = .ok groups) :
    ∀ group ∈ groups, ∀ scope ∈ group, scope ∈ objects := by
  have ends {scope : Scope} {link : ConnectionId} (member : scope ∈ endsAmong look objects link) :
      scope ∈ objects := List.contains_iff_mem.mp (List.mem_filter.mp member).2
  intro group listed scope member
  unfold shared at run
  split at run
  case h_1 =>
    cases run
    obtain ⟨object, known, rfl⟩ := List.mem_map.mp listed
    rw [List.mem_singleton.mp member]
    exact (inKeyOrder_perm look objects).mem_iff.mp known
  case h_2 =>
    obtain ⟨layer, _, run⟩ := Outcome.bind_eq_ok.mp run
    cases run
    obtain ⟨id, _, rfl⟩ := List.mem_map.mp (List.mem_filter.mp listed).1
    obtain ⟨link, _, isEnd⟩ := List.mem_flatMap.mp member
    exact ends isEnd
  case h_3 =>
    cases run
    obtain ⟨link, _, rfl⟩ := List.mem_map.mp (List.mem_filter.mp listed).1
    exact ends member

/-- The parameters of interfaces are those of no other object. -/
theorem assignInterfaces_unaltered {scope : Scope} (away : ∀ id, scope ≠ .interface id) :
    Within (unaltered name scope) (assignInterfaces config files) := by
  refine within_bind within_get fun seen => within_bind (within_modify fun current => ?_) fun _ =>
    distribute_holds fun other objects inside => ?_
  · refine (unaltered name scope).foldl (fun current => current) (fun current id => ?_) current _
    have takes : takeOver current id =
        current.updateParameters (.interface id) (·.setAll (takenOver current id)) := rfl
    rw [takes]
    exact unaltered_updateParameters fun same => absurd same.symm (away id)
  · refine distributeRule_holds fun look rule groups grouped group listed owner member _ _ =>
      unaltered_set fun same => ?_
    have among := inside owner (mem_of_shared grouped group listed owner member)
    obtain ⟨id, _, is⟩ := List.mem_map.mp among
    exact absurd (is.trans same).symm (away id)

/-- The kinds of objects get their parameters one after the other, and then interfaces and
the owners of records. -/
theorem assignAll_eq_ok
    (run : (assignAll config files generators).outcome network = (.ok (), after)) :
    ∃ dealt filled,
      (singleKinds.forM fun kind => assignKind config files (·.objectsOf kind)).outcome
          (network.updateParameters .network (·.set ParamName.objectName config.name)) =
        (.ok (), dealt) ∧
      (assignInterfaces config files).outcome dealt = (.ok (), filled) ∧
      (Attaching.attachAll config files generators).outcome filled = (.ok (), after) := by
  rw [assignAll, outcome_modify_bind] at run
  obtain ⟨_, nodes, nodesRun, run⟩ := outcome_bind_eq_ok.mp run
  obtain ⟨_, links, linksRun, run⟩ := outcome_bind_eq_ok.mp run
  obtain ⟨_, groups, groupsRun, run⟩ := outcome_bind_eq_ok.mp run
  obtain ⟨_, segments, segmentsRun, run⟩ := outcome_bind_eq_ok.mp run
  obtain ⟨_, filled, fill, attach⟩ := outcome_bind_eq_ok.mp run
  refine ⟨segments, filled, ?_, fill, attach⟩
  refine outcome_forM_cons_eq_ok.mpr ⟨nodes, nodesRun, ?_⟩
  refine outcome_forM_cons_eq_ok.mpr ⟨links, linksRun, ?_⟩
  refine outcome_forM_cons_eq_ok.mpr ⟨groups, groupsRun, ?_⟩
  exact outcome_forM_cons_eq_ok.mpr ⟨segments, segmentsRun, rfl⟩

/-- What is dealt by key stays so when nothing happens to it before and after. -/
theorem DealtByKey.congr {before next : Network}
    (dealt : DealtByKey config files rule kind before next) (single : kind ∈ singleKinds)
    (earlier : (dealing rule.name kind).holds network before)
    (later : ∀ scope : Scope, scope.classKind? = some kind →
      after.ownValue? rule.name scope = next.ownValue? rule.name scope) :
    DealtByKey config files rule kind network after := by
  have same := requesting_congr single earlier rule.name
  have ofKind {scope : Scope} (listed : scope ∈ network.requesting kind rule.name) :
      scope.classKind? = some kind := classKind?_of_requesting listed
  have keys : ∀ scope ∈ network.requesting kind rule.name,
      before.sortKey scope = network.sortKey scope :=
    fun scope listed => sortKey_congr single earlier.1 (ofKind listed)
  obtain ⟨⟨sorted, order⟩, gives, different, kept⟩ := dealt
  rw [same] at order gives different kept
  refine ⟨⟨sorted, order.congr fun scope listed => (keys scope listed).symm⟩, ?_, ?_, ?_⟩
  · intro sorted order position scope found
    obtain ⟨candidates, value, values, candidate, own⟩ :=
      gives sorted (order.congr keys) position scope found
    have listed := order.perm.mem_iff.mp (List.mem_of_getElem? found)
    exact ⟨candidates, value, values, candidate, (later scope (ofKind listed)).trans own⟩
  · intro left leftListed right rightListed equal
    rw [later left (ofKind leftListed), later right (ofKind rightListed)] at equal
    exact different left leftListed right rightListed equal
  · intro scope known idle
    have here := (mem_objectsOf.mp known).1
    rw [← objectsOf_congr single earlier.1] at known
    exact (later scope here).trans ((kept scope known idle).trans (earlier.2 scope here).2)

/-- Objects that request a rule get its candidates by key. -/
theorem dealtByKey_of_assignAll (valid : config.validate = .ok ())
    (run : (assignAll config files generators).outcome network = (.ok (), after))
    (single : kind ∈ singleKinds) (listed : rule ∈ config.rules) (plain : rule.attaches = false) :
    DealtByKey config files rule kind network after := by
  have sound := Config.fault?_of_rule valid listed
  obtain ⟨dealt, filled, kinds, fill, attach⟩ := assignAll_eq_ok run
  obtain ⟨front, rest, split⟩ := List.append_of_mem single
  have once : (front ++ kind :: rest).Nodup := split ▸ (by decide : singleKinds.Nodup)
  obtain ⟨_, onceRest, apart⟩ := List.nodup_append.mp once
  rw [split] at kinds
  obtain ⟨before, first, kinds⟩ := outcome_forM_append_eq_ok.mp kinds
  obtain ⟨next, turn, kinds⟩ := outcome_forM_cons_eq_ok.mp kinds
  let named := network.updateParameters .network (·.set ParamName.objectName config.name)
  have start : (dealing rule.name kind).holds network named :=
    ⟨sameKeys_valueless.parameters network .network _, fun scope ofKind => unaltered_set fun _ =>
      (ParamName.ne_objectName_of_fault? sound).symm⟩
  have earlier : (dealing rule.name kind).holds named before :=
    Within.holds (within_forM fun other member => assignKind_dealing sound fun same =>
      apart other member kind List.mem_cons_self same) first
  have later : (dealing rule.name kind).holds next dealt :=
    Within.holds (within_forM fun other member => assignKind_dealing sound fun same =>
      (List.nodup_cons.mp onceRest).1 (same ▸ member)) kinds
  refine (dealtByKey_of_assignKind valid listed plain single turn).congr single
    ((dealing rule.name kind).trans start earlier) fun scope ofKind => ?_
  have away (id : InterfaceId) : scope ≠ .interface id := by
    rintro rfl
    cases ofKind
    exact absurd single (by decide)
  have filling : (unaltered rule.name scope).holds dealt filled :=
    (assignInterfaces_unaltered away).holds fill
  have attaching : (unaltered rule.name scope).holds filled after :=
    (Attaching.attachAll_unaltered config files generators rule.name scope).holds attach
  exact attaching.2.trans (filling.2.trans (later.2 scope ofKind).2)

/-- In two networks the same keys request a rule, each for one object. -/
structure SameRequests (kind : ClassKind) (name : String) (left right : Network) : Prop where
  leftOnce : ((left.requesting kind name).map left.sortKey).Nodup
  rightOnce : ((right.requesting kind name).map right.sortKey).Nodup
  mem_iff : ∀ key, key ∈ (left.requesting kind name).map left.sortKey ↔
    key ∈ (right.requesting kind name).map right.sortKey

/-- The sorted keys of requests are the same in both networks. -/
theorem SameRequests.map_sortKey {left right : Network} (same : SameRequests kind name left right)
    {sorted other : List Scope} (order : left.InKeyOrder (left.requesting kind name) sorted)
    (otherOrder : right.InKeyOrder (right.requesting kind name) other) :
    sorted.map left.sortKey = other.map right.sortKey := by
  have ascending {look : Network} {objects sorted : List Scope}
      (order : look.InKeyOrder objects sorted) : (sorted.map look.sortKey).Pairwise (· ≤ ·) := by
    refine List.pairwise_map.mpr (order.ordered.imp fun before => ?_)
    rcases before with less | ⟨equal, _⟩
    · exact le_of_lt less
    · exact le_of_eq equal
  have perm := order.perm.map left.sortKey
  have otherPerm := otherOrder.perm.map right.sortKey
  refine List.Perm.eq_of_pairwise (fun _ _ _ _ => le_antisymm) (ascending order)
    (ascending otherOrder) (perm.trans (.trans ?_ otherPerm.symm))
  exact (List.perm_ext_iff_of_nodup same.leftOnce same.rightOnce).mpr same.mem_iff

/-- Objects that have one key in two networks have one value. -/
theorem DealtByKey.ownValue?_eq {left right leftAfter rightAfter : Network}
    (dealt : DealtByKey config files rule kind left leftAfter)
    (otherDealt : DealtByKey config files rule kind right rightAfter)
    (same : SameRequests kind rule.name left right) {scope other : Scope}
    (listed : scope ∈ left.requesting kind rule.name)
    (otherListed : other ∈ right.requesting kind rule.name)
    (key : left.sortKey scope = right.sortKey other) :
    leftAfter.ownValue? rule.name scope = rightAfter.ownValue? rule.name other := by
  obtain ⟨sorted, order⟩ := dealt.sortable
  obtain ⟨otherSorted, otherOrder⟩ := otherDealt.sortable
  have keys := same.map_sortKey order otherOrder
  obtain ⟨position, found⟩ := List.mem_iff_getElem?.mp (order.perm.mem_iff.mpr listed)
  have otherFound : otherSorted[position]? = some other := by
    have there := congrArg (·[position]?) keys
    simp only [List.getElem?_map, found, Option.map_some] at there
    obtain ⟨here, look, equal⟩ := Option.map_eq_some_iff.mp there.symm
    have member := otherOrder.perm.mem_iff.mp (List.mem_of_getElem? look)
    rw [look, List.inj_on_of_nodup_map same.rightOnce member otherListed (equal.trans key)]
  obtain ⟨candidates, value, values, candidate, own⟩ :=
    dealt.dealt sorted order position scope found
  obtain ⟨_, otherValue, otherValues, otherCandidate, otherOwn⟩ :=
    otherDealt.dealt otherSorted otherOrder position other otherFound
  have length : sorted.length = otherSorted.length := by
    simpa using congrArg List.length keys
  rw [← length, values] at otherValues
  cases otherValues
  rw [own, otherOwn, ← candidate, otherCandidate]

/-- Plain rules give their candidates to nodes, connections, groups and segments in the order
of their keys, whatever else is assigned.  Where the keys are different, the value of an
object depends only on the keys of all that request the rule. -/
theorem dealsByKey_of_assignAll (valid : config.validate = .ok ())
    (run : (assignAll config files generators).outcome network = (.ok (), after))
    (single : kind ∈ singleKinds) (listed : rule ∈ config.rules) (plain : rule.attaches = false) :
    DealtByKey config files rule kind network after ∧
      ∀ otherGenerators other otherAfter,
        (assignAll config files otherGenerators).outcome other = (.ok (), otherAfter) →
        SameRequests kind rule.name network other →
        ∀ left ∈ network.requesting kind rule.name, ∀ right ∈ other.requesting kind rule.name,
          network.sortKey left = other.sortKey right →
            after.ownValue? rule.name left = otherAfter.ownValue? rule.name right := by
  have dealt := dealtByKey_of_assignAll valid run single listed plain
  refine ⟨dealt, fun _ other otherAfter otherRun same left leftListed right rightListed key => ?_⟩
  have otherDealt := dealtByKey_of_assignAll valid otherRun single listed plain
  exact dealt.ownValue?_eq otherDealt same leftListed rightListed key

end All

end Assignment

namespace Fleet

open Network Assignment

/-- Routers get a number. -/
def config : Config where
  name := "fleet"
  rules := [{ name := "asn", min := 65000 }]

/-- The rule for numbers. -/
def asn : ParameterRule := { name := "asn", min := 65000 }

/-- A node that asks for a number. -/
def router (name : String) : Node :=
  { name, parameters := { flags := ({} : NameSet).insert "asn" } }

/-- Two routers and a node that has its own number. -/
def network : Network where
  nodes := #[router "b", router "a", { name := "c", parameters := ({} : Parameters).set "asn" "7" }]

/-- The routers in the other order. -/
def other : Network where
  nodes := #[router "a", router "b"]

/-- The first network with its parameters. -/
def assigned : Network := ((assignAll config .none {}).outcome network).2

/-- The second network with its parameters. -/
def otherAssigned : Network := ((assignAll config .none {}).outcome other).2

theorem dealsByKey_of_routers :
    config.validate = .ok () ∧
      (assignAll config .none {}).outcome network = (.ok (), assigned) ∧
      (assignAll config .none {}).outcome other = (.ok (), otherAssigned) ∧
      asn ∈ config.rules ∧ asn.attaches = false ∧ SameRequests .node "asn" network other ∧
      [0, 1, 2].map (fun id => assigned.ownValue? "asn" (.node id)) =
        [some "65001", some "65000", some "7"] ∧
      DealtByKey config .none asn .node network assigned ∧
      assigned.ownValue? "asn" (.node 0) = otherAssigned.ownValue? "asn" (.node 1) := by
  have valid : config.validate = .ok () := by decide +kernel
  have run : (assignAll config .none {}).outcome network = (.ok (), assigned) :=
    Stage.outcome_eq_ok (by cbv)
  have otherRun : (assignAll config .none {}).outcome other = (.ok (), otherAssigned) :=
    Stage.outcome_eq_ok (by cbv)
  have listed : asn ∈ config.rules := List.mem_cons_self
  have plain : asn.attaches = false := by decide +kernel
  have keys : (network.requesting .node "asn").map network.sortKey = ["b", "a"] := by
    decide +kernel
  have otherKeys : (other.requesting .node "asn").map other.sortKey = ["a", "b"] := by
    decide +kernel
  have same : SameRequests .node "asn" network other := by
    refine ⟨by decide +kernel, by decide +kernel, fun key => ?_⟩
    rw [keys, otherKeys]
    exact (List.Perm.swap "a" "b" []).mem_iff
  obtain ⟨dealt, depends⟩ := dealsByKey_of_assignAll valid run List.mem_cons_self listed plain
  refine ⟨valid, run, otherRun, listed, plain, same, by cbv, dealt, ?_⟩
  exact depends {} other otherAssigned otherRun same (.node 0) (by decide +kernel) (.node 1)
    (by decide +kernel) (by decide +kernel)

end Fleet

end TopoPlan
