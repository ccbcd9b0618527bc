import TopoPlan.Proofs.Network.Layout
import TopoPlan.Proofs.Network.Writes
import TopoPlan.Proofs.Rule.Candidates

/-!
# Candidates of groups

A plain rule gives one candidate to each group of the interfaces that request it.
`Grouped` says that groups divide some interfaces by a relation, and `shared_giveAll` that
two of them have the same value afterwards exactly when they are related.
-/

namespace TopoPlan

namespace Network

/-- The value that an interface has of a parameter of its own. -/
def portValue? (network : Network) (name : String) (id : InterfaceId) : Option String :=
  (network.interface id).parameters.get? name

/-- The value that an object has of a parameter of its own. -/
def ownValue? (network : Network) (name : String) (scope : Scope) : Option String :=
  (network.parametersOf scope).get? name

/-- Whether an interface requests a rule. -/
def portRequests (network : Network) (name : String) (id : InterfaceId) : Bool :=
  (network.interface id).parameters.hasFlag name

/-- The frame of stages that leave alone what an object requests, and what it has of one
parameter. -/
def unaltered (name : String) (scope : Scope) : Frame where
  holds before after :=
    (after.parametersOf scope).flags = (before.parametersOf scope).flags ∧
      after.ownValue? name scope = before.ownValue? name scope
  refl _ := ⟨rfl, rfl⟩
  trans first second := ⟨second.1.trans first.1, second.2.trans first.2⟩

/-- The frame of stages that leave alone what an interface requests, and what it has of one
parameter. -/
def undisturbed (name : String) (id : InterfaceId) : Frame where
  holds before after :=
    (after.interface id).parameters.flags = (before.interface id).parameters.flags ∧
      after.portValue? name id = before.portValue? name id
  refl _ := ⟨rfl, rfl⟩
  trans first second := ⟨second.1.trans first.1, second.2.trans first.2⟩

/-- The frame of stages that leave alone the layout, what interfaces request, and what they
have of one parameter. -/
def besides (name : String) : Frame where
  holds before after := SameLayout before after ∧ ∀ id, (undisturbed name id).holds before after
  refl network := ⟨layout.refl network, fun id => (undisturbed name id).refl network⟩
  trans first second := ⟨layout.trans first.1 second.1,
    fun id => (undisturbed name id).trans (first.2 id) (second.2 id)⟩

variable {network : Network} {name : String} {id : InterfaceId}

/-- A stage stays besides a rule if it keeps the layout and disturbs no interface. -/
theorem within_besides {α : Type} {stage : Stage α} (laid : Stage.Within layout stage)
    (each : ∀ id, Stage.Within (undisturbed name id) stage) : Stage.Within (besides name) stage :=
  fun network => ⟨laid network, fun id => each id network⟩

/-- The requests of an undisturbed interface stay the same. -/
theorem portRequests_congr {before after : Network}
    (same : (undisturbed name id).holds before after) (rule : String) :
    after.portRequests rule id = before.portRequests rule id :=
  congrArg (·.contains rule) same.1

/-- Parameters of other objects do not alter an object, nor do others of its own. -/
theorem unaltered_updateParameters {scope other : Scope} {change : Parameters → Parameters}
    (away : scope = other → ∀ parameters, (change parameters).flags = parameters.flags ∧
      (change parameters).get? name = parameters.get? name) :
    (unaltered name other).holds network (network.updateParameters scope change) := by
  have parameters := network.parametersOf_updateParameters scope other change
  by_cases here : other = scope ∧ network.Has other
  · rw [if_pos here] at parameters
    obtain ⟨flags, value⟩ := away here.1.symm (network.parametersOf other)
    exact ⟨(congrArg Parameters.flags parameters).trans flags,
      (congrArg (·.get? name) parameters).trans value⟩
  · rw [if_neg here] at parameters
    exact ⟨congrArg Parameters.flags parameters, congrArg (·.get? name) parameters⟩

/-- A value of another parameter, or of another object. -/
theorem unaltered_set {scope other : Scope} {key value : String}
    (different : scope = other → key ≠ name) :
    (unaltered name other).holds network (network.updateParameters scope (·.set key value)) := by
  refine unaltered_updateParameters fun here parameters => ⟨rfl, ?_⟩
  rw [Parameters.get?_set, if_neg (different here)]

/-- Parameters of other objects do not disturb an interface, nor do others of its own. -/
theorem undisturbed_updateParameters {scope : Scope} {change : Parameters → Parameters}
    (away : scope = .interface id → ∀ parameters, (change parameters).flags = parameters.flags ∧
      (change parameters).get? name = parameters.get? name) :
    (undisturbed name id).holds network (network.updateParameters scope change) :=
  unaltered_updateParameters away

/-- A value of another parameter, or of another object. -/
theorem undisturbed_set {scope : Scope} {other value : String}
    (different : scope = .interface id → other ≠ name) :
    (undisturbed name id).holds network (network.updateParameters scope (·.set other value)) :=
  unaltered_set different

/-- An object that is given a value has it. -/
theorem ownValue?_set {scope : Scope} {value : String} (has : network.Has scope) :
    (network.updateParameters scope (·.set name value)).ownValue? name scope = some value := by
  rw [ownValue?, parametersOf_updateParameters, if_pos ⟨rfl, has⟩, Parameters.get?_set, if_pos rfl]

end Network

namespace Distribution

open Network Stage

variable {config : Config} {files : TextFiles} {network after : Network} {name : String}

/-! ## Giving values -/

/-- Every object of a group has the value of the group. -/
theorem ownValue?_foldl_set {group : List Scope} {value : String} {scope : Scope}
    (member : scope ∈ group) (has : network.Has scope) :
    (group.foldl (fun current scope => current.updateParameters scope (·.set name value))
      network).ownValue? name scope = some value := by
  induction group generalizing network with
  | nil => cases member
  | cons first rest inductionHypothesis =>
    rw [List.foldl_cons]
    by_cases again : scope ∈ rest
    · exact inductionHypothesis again ((network.has_updateParameters first scope _).mpr has)
    · obtain rfl : first = scope := by
        rcases List.mem_cons.mp member with same | later
        · exact same.symm
        · exact absurd later again
      -- The other objects of the group leave this one alone.
      have kept : (unaltered name first).holds
          (network.updateParameters first (·.set name value))
          (rest.foldl (fun current scope => current.updateParameters scope (·.set name value))
            (network.updateParameters first (·.set name value))) :=
        (unaltered name first).foldl_of_mem (fun current => current)
          (fun other listed current => unaltered_set fun same => absurd (same ▸ listed) again) _
      exact kept.2.trans (ownValue?_set has)

/-- An object that is in no group keeps what it has. -/
theorem unaltered_giveAll {groups : List (List Scope × String)} {scope : Scope}
    (absent : ∀ entry ∈ groups, scope ∉ entry.1) :
    (unaltered name scope).holds network (giveAll name network groups) :=
  giveAll_holds (fun entry listed _ member _ =>
    unaltered_set fun same => absurd (same ▸ member) (absent entry listed)) network

/-- An object of one of several groups without common objects has the value of its group. -/
theorem ownValue?_giveAll {groups : List (List Scope × String)}
    (disjoint : (groups.map Prod.fst).Pairwise List.Disjoint) {entry : List Scope × String}
    (listed : entry ∈ groups) {scope : Scope} (member : scope ∈ entry.1)
    (has : network.Has scope) :
    (giveAll name network groups).ownValue? name scope = some entry.2 := by
  induction groups generalizing network with
  | nil => cases listed
  | cons first rest inductionHypothesis =>
    rw [List.map_cons, List.pairwise_cons] at disjoint
    let given := first.1.foldl
      (fun current scope => current.updateParameters scope (·.set name first.2)) network
    change (giveAll name given rest).ownValue? name scope = some entry.2
    rcases List.mem_cons.mp listed with rfl | later
    · refine (unaltered_giveAll fun other listed again => ?_).2.trans
        (ownValue?_foldl_set member has)
      exact disjoint.1 other.1 (List.mem_map_of_mem listed) member again
    · refine inductionHypothesis disjoint.2 later ?_
      let there (current : Network) : Prop := current.Has scope
      exact List.foldlRecOn (motive := there) first.1 _ has fun current has other _ =>
        (current.has_updateParameters other scope _).mpr has

/-- Groups divide the interfaces that take a value into those that share one. -/
structure Grouped (takes : InterfaceId → Prop) (shares : InterfaceId → InterfaceId → Prop)
    (groups : List (List Scope)) : Prop where
  disjoint : groups.Pairwise List.Disjoint
  mem_iff : ∀ id, (∃ group ∈ groups, .interface id ∈ group) ↔ takes id
  together : ∀ left right, takes left → takes right →
    ((∃ group ∈ groups, .interface left ∈ group ∧ .interface right ∈ group) ↔ shares left right)

/-- A group with an object is one that is made of a key. -/
theorem mem_groups_of_mem {Key : Type} {keys : List Key} {group : Key → List Scope}
    {scope : Scope} {found : List Scope} (member : scope ∈ found) :
    (found ∈ (keys.map group).filter fun group => !group.isEmpty) ↔
      ∃ key ∈ keys, group key = found := by
  have some : (!found.isEmpty) = true := by
    rw [List.isEmpty_eq_false_iff.mpr (List.ne_nil_of_mem member)]
    rfl
  rw [List.mem_filter, and_iff_left some, List.mem_map]

/-- Groups that are made of different keys, with no object in two of them. -/
theorem grouped_of_keys {Key : Type} {keys : List Key} (group : Key → List Scope)
    (once : keys.Nodup)
    (unique : ∀ left ∈ keys, ∀ right ∈ keys, ∀ scope ∈ group left, scope ∈ group right →
      left = right) :
    Grouped (fun id => ∃ key ∈ keys, .interface id ∈ group key)
      (fun left right => ∃ key ∈ keys, .interface left ∈ group key ∧ .interface right ∈ group key)
      ((keys.map group).filter fun group => !group.isEmpty) where
  disjoint := by
    apply List.Pairwise.sublist List.filter_sublist
    apply List.pairwise_map.mpr
    apply once.imp_of_mem
    intro left right leftListed rightListed different scope inLeft inRight
    exact different (unique left leftListed right rightListed scope inLeft inRight)
  mem_iff id := by
    constructor
    · rintro ⟨found, listed, member⟩
      obtain ⟨key, known, rfl⟩ := (mem_groups_of_mem member).mp listed
      exact ⟨key, known, member⟩
    · rintro ⟨key, known, member⟩
      exact ⟨group key, (mem_groups_of_mem member).mpr ⟨key, known, rfl⟩, member⟩
  together left right _ _ := by
    constructor
    · rintro ⟨found, listed, leftMember, rightMember⟩
      obtain ⟨key, known, rfl⟩ := (mem_groups_of_mem leftMember).mp listed
      exact ⟨key, known, leftMember, rightMember⟩
    · rintro ⟨key, known, leftMember, rightMember⟩
      exact ⟨group key, (mem_groups_of_mem leftMember).mpr ⟨key, known, rfl⟩, leftMember,
        rightMember⟩

/-- The same interfaces, divided by the same relation. -/
theorem Grouped.congr {takes taking : InterfaceId → Prop}
    {shares sharing : InterfaceId → InterfaceId → Prop} {groups : List (List Scope)}
    (grouped : Grouped takes shares groups) (taken : ∀ id, takes id ↔ taking id)
    (shared : ∀ left right, taking left → taking right → (shares left right ↔ sharing left right)) :
    Grouped taking sharing groups where
  disjoint := grouped.disjoint
  mem_iff id := (grouped.mem_iff id).trans (taken id)
  together left right leftTaking rightTaking := by
    rw [← shared left right leftTaking rightTaking]
    exact grouped.together left right ((taken left).mpr leftTaking) ((taken right).mpr rightTaking)

/-- Interfaces that take a value of a parameter have one, the same for those that share it,
and the others keep what they had. -/
structure Shared (name : String) (takes : InterfaceId → Prop)
    (shares : InterfaceId → InterfaceId → Prop) (before after : Network) : Prop where
  given : ∀ id, takes id → (after.portValue? name id).isSome = true
  same_iff : ∀ left right, takes left → takes right →
    (after.portValue? name left = after.portValue? name right ↔ shares left right)
  kept : ∀ id, ¬ takes id → after.portValue? name id = before.portValue? name id

section Candidates

variable {takes : InterfaceId → Prop} {shares : InterfaceId → InterfaceId → Prop}
  {groups : List (List Scope)} (grouped : Grouped takes shares groups)
  {candidates : List String} (length : candidates.length = groups.length)

include length

/-- Every group gets a candidate. -/
theorem exists_mem_zip {group : List Scope} (listed : group ∈ groups) :
    ∃ entry ∈ groups.zip candidates, entry.1 = group := by
  rw [← List.map_fst_zip (Nat.le_of_eq length.symm)] at listed
  exact List.mem_map.mp listed

include grouped

/-- Every interface that takes a value is in a group that gets a candidate. -/
theorem Grouped.exists_entry {id : InterfaceId} (takesValue : takes id) :
    ∃ entry ∈ groups.zip candidates, .interface id ∈ entry.1 := by
  obtain ⟨group, listed, member⟩ := (grouped.mem_iff id).mpr takesValue
  obtain ⟨entry, zipped, rfl⟩ := exists_mem_zip length listed
  exact ⟨entry, zipped, member⟩

/-- Every interface has the candidate of its group. -/
theorem Grouped.portValue?_giveAll {entry : List Scope × String}
    (listed : entry ∈ groups.zip candidates) {id : InterfaceId} (member : .interface id ∈ entry.1)
    (inside : id < network.interfaces.size) :
    (giveAll name network (groups.zip candidates)).portValue? name id = some entry.2 := by
  apply ownValue?_giveAll _ listed member inside
  rw [List.map_fst_zip (Nat.le_of_eq length.symm)]
  exact grouped.disjoint

/-- Groups without common objects that get different values. -/
theorem Grouped.shared_giveAll (once : candidates.Nodup)
    (inside : ∀ id, takes id → id < network.interfaces.size) :
    Shared name takes shares network (giveAll name network (groups.zip candidates)) where
  given id takesValue := by
    obtain ⟨entry, listed, member⟩ := grouped.exists_entry length takesValue
    rw [grouped.portValue?_giveAll length listed member (inside id takesValue)]
    rfl
  same_iff left right leftTakes rightTakes := by
    have leftInside := inside left leftTakes
    have rightInside := inside right rightTakes
    rw [← grouped.together left right leftTakes rightTakes]
    constructor
    · intro same
      obtain ⟨leftEntry, leftListed, leftMember⟩ := grouped.exists_entry length leftTakes
      obtain ⟨rightEntry, rightListed, rightMember⟩ := grouped.exists_entry length rightTakes
      rw [grouped.portValue?_giveAll length leftListed leftMember leftInside,
        grouped.portValue?_giveAll length rightListed rightMember rightInside,
        Option.some_inj] at same
      -- Different groups have different candidates.
      have different : ((groups.zip candidates).map Prod.snd).Nodup := by
        rw [List.map_snd_zip (Nat.le_of_eq length)]
        exact once
      obtain rfl : leftEntry = rightEntry :=
        List.inj_on_of_nodup_map different leftListed rightListed same
      exact ⟨leftEntry.1, (List.of_mem_zip leftListed).1, leftMember, rightMember⟩
    · rintro ⟨group, listed, leftMember, rightMember⟩
      obtain ⟨entry, zipped, rfl⟩ := exists_mem_zip length listed
      rw [grouped.portValue?_giveAll length zipped leftMember leftInside,
        grouped.portValue?_giveAll length zipped rightMember rightInside]
  kept id idle := by
    have absent : ∀ entry ∈ groups.zip candidates, .interface id ∉ entry.1 := by
      intro entry listed member
      exact idle ((grouped.mem_iff id).mp ⟨entry.1, (List.of_mem_zip listed).1, member⟩)
    exact (unaltered_giveAll absent).2

end Candidates

/-! ## Requests -/

/-- The requests of one object are entered after those of the ones before it. -/
theorem getD_foldl_push {names : List String} (once : names.Nodup) (found : Table (List Scope))
    (scope : Scope) :
    (names.foldl (fun found name => Table.push found name scope) found).getD name [] =
      if name ∈ names then found.getD name [] ++ [scope] else found.getD name [] := by
  induction names generalizing found with
  | nil => rfl
  | cons first rest inductionHypothesis =>
    obtain ⟨fresh, onceRest⟩ := List.nodup_cons.mp once
    rw [List.foldl_cons, inductionHypothesis onceRest, Table.getD_push]
    by_cases same : name = first
    · subst same
      simp [fresh]
    · simp [same]

/-- The objects entered under a name are those that request the rule, in their order. -/
theorem getD_requests (scopes : List Scope) :
    (requests network scopes).getD name [] =
      scopes.filter fun scope => (network.parametersOf scope).hasFlag name := by
  have all (found : Table (List Scope)) :
      (scopes.foldl
        (fun (found : Table (List Scope)) scope =>
          (network.parametersOf scope).flags.toList.foldl
            (fun (found : Table (List Scope)) name => Table.push found name scope) found)
        found).getD name [] =
      found.getD name [] ++
        scopes.filter fun scope => (network.parametersOf scope).hasFlag name := by
    induction scopes generalizing found with
    | nil => simp
    | cons scope rest inductionHypothesis =>
      have once : (network.parametersOf scope).flags.toList.Nodup := by
        refine Std.ExtTreeSet.distinct_toList.imp fun different same => different ?_
        rw [same, Std.LawfulEqCmp.compare_eq_iff_eq]
      have requested : name ∈ (network.parametersOf scope).flags.toList ↔
          (network.parametersOf scope).hasFlag name = true := by
        rw [Std.ExtTreeSet.mem_toList, Parameters.hasFlag, Std.ExtTreeSet.contains_iff_mem]
      rw [List.foldl_cons, inductionHypothesis, getD_foldl_push once, List.filter_cons]
      simp only [requested]
      split
      · rw [List.append_assoc, List.singleton_append]
      · rfl
  exact (all {}).trans (by simp)

/-- The objects of an entry are those that request the rule of the entry. -/
theorem eq_filter_of_mem_requests {scopes : List Scope} {entry : String × List Scope}
    (listed : entry ∈ (requests network scopes).toList) :
    entry.2 = scopes.filter fun scope => (network.parametersOf scope).hasFlag entry.1 :=
  (Table.getD_of_mem_toList listed).symm.trans (getD_requests scopes)

/-! ## One rule among all -/

/-- A successful distribution of a plain rule gives its candidates to its groups. -/
theorem distributeRule_eq_ok {grouping : Grouping} {objects : List Scope} {rule : ParameterRule}
    (found : config.rule? rule.name = some rule) (plain : rule.attaches = false)
    (run : (distributeRule config files grouping rule.name objects).outcome network =
      (.ok (), after)) :
    ∃ groups candidates, grouping network rule objects = .ok groups ∧
      Candidate.values config files rule groups.length = .ok candidates ∧
      after = giveAll rule.name network (groups.zip candidates) := by
  have requested : requestedRule config network rule.name objects = .ok rule := by
    rw [requestedRule, found]
  rw [distributeRule, outcome_get_bind, requested] at run
  obtain ⟨_, same, run⟩ := outcome_ofExcept_bind_eq_ok.mp run
  cases same
  rw [plain, if_neg Bool.false_ne_true] at run
  obtain ⟨groups, grouped, run⟩ := outcome_ofExcept_bind_eq_ok.mp run
  obtain ⟨candidates, values, run⟩ := outcome_ofExcept_bind_eq_ok.mp run
  exact ⟨groups, candidates, grouped, values, outcome_set_eq_ok.mp run⟩

/-- A distribution keeps what the distribution of each rule keeps. -/
theorem distribute_holds {frame : Frame} {grouping : Grouping} {scopes : List Scope}
    (keeps : ∀ name objects, (∀ object ∈ objects, object ∈ scopes) →
      Within frame (distributeRule config files grouping name objects)) :
    Within frame (distribute config files grouping scopes) := by
  refine within_get_bind fun network => ?_
  refine within_forM (fun entry listed => keeps entry.1 entry.2 fun object member => ?_) network
  rw [eq_filter_of_mem_requests listed] at member
  exact (List.mem_filter.mp member).1

/-- A successful distribution has one turn for each rule that is requested, and what the
turns of other rules keep is the same before and after it. -/
theorem distribute_eq_ok {frame : Frame} {grouping : Grouping} {scopes : List Scope}
    (others : ∀ other objects, other ≠ name →
      Within frame (distributeRule config files grouping other objects))
    (run : (distribute config files grouping scopes).outcome network = (.ok (), after)) :
    ((scopes.filter fun scope => (network.parametersOf scope).hasFlag name) = [] ∧
        frame.holds network after) ∨
      ∃ before next, frame.holds network before ∧
        (distributeRule config files grouping name
          (scopes.filter fun scope => (network.parametersOf scope).hasFlag name)).outcome before =
            (.ok (), next) ∧ frame.holds next after := by
  rw [distribute, outcome_get_bind] at run
  have asked : (requests network scopes).getD name [] =
      scopes.filter fun scope => (network.parametersOf scope).hasFlag name :=
    getD_requests scopes
  cases entered : (requests network scopes)[name]? with
  | none =>
    rw [Std.ExtTreeMap.getD_eq_getD_getElem?, entered] at asked
    refine .inl ⟨asked.symm, Within.holds (within_forM fun entry listed => ?_) run⟩
    refine others entry.1 entry.2 fun same => ?_
    rw [Std.ExtTreeMap.mem_toList_iff_getElem?_eq_some, same, entered] at listed
    cases listed
  | some objects =>
    rw [Std.ExtTreeMap.getD_eq_getD_getElem?, entered, Option.getD_some] at asked
    have listed := Std.ExtTreeMap.mem_toList_iff_getElem?_eq_some.mpr entered
    obtain ⟨front, rest, split⟩ := List.append_of_mem listed
    have distinct := Std.ExtTreeMap.distinct_keys_toList (t := requests network scopes)
    rw [split, List.pairwise_append, List.pairwise_cons] at distinct
    rw [split] at run
    obtain ⟨before, first, run⟩ := outcome_forM_append_eq_ok.mp run
    obtain ⟨next, turn, run⟩ := outcome_forM_cons_eq_ok.mp run
    rw [asked] at turn
    refine .inr ⟨before, next, Within.holds (within_forM fun entry listed => ?_) first, turn,
      Within.holds (within_forM fun entry listed => ?_) run⟩
    · refine others entry.1 entry.2 fun same => ?_
      apply distinct.2.2 entry listed _ List.mem_cons_self
      rw [same, Std.LawfulEqCmp.compare_eq_iff_eq]
    · refine others entry.1 entry.2 fun same => ?_
      apply distinct.2.1.1 entry listed
      rw [same, Std.LawfulEqCmp.compare_eq_iff_eq]

end Distribution

end TopoPlan
