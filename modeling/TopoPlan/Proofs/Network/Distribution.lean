import Mathlib.Data.List.Pairwise
import TopoPlan.Network.Addressing
import TopoPlan.Proofs.Address.PoolRuns
import TopoPlan.Proofs.Config.Layers
import TopoPlan.Proofs.Network.Plans
import TopoPlan.Proofs.Text.Tables

/-!
# Distribution of subnets

Plans without a subnet get one from the pool of their policy, after the subnets of all
other plans have been reserved in every pool.  `Completed` says what holds of the plans
then, and `completed_of_completePlans` is the main statement.
-/

namespace TopoPlan

/-- What a plan asks for, whatever subnet it has. -/
def SegmentPlan.unbound (plan : SegmentPlan) : SegmentPlan :=
  { plan with subnet := none }

namespace Addressing

/-- A subnet as a policy serves it, apart from explicit subnets.  Pools of `2 ^ 128`
blocks cannot promise the latter. -/
def Serves (policy : Policy) (explicit : List Subnet) (block : Subnet) : Prop :=
  ∃ range, Subnet.parse policy.range = .ok range ∧ range.covers block = true ∧
    block.length = policy.subnetLength ∧
    (policy.subnetLength - range.length < 128 → ∀ subnet ∈ explicit, ¬ block.Meets subnet)

/-- What a policy hands out: subnets that it serves, no two of which share an address,
and which are the lowest ones where its pool has few enough blocks. -/
structure Deals (policy : Policy) (explicit blocks : List Subnet) : Prop where
  serve : ∀ block ∈ blocks, Serves policy explicit block
  apart : blocks.Pairwise fun left right => ¬ left.Meets right
  lowest : ∀ range, Subnet.parse policy.range = .ok range →
    policy.subnetLength - range.length < 128 →
      Pool.Lowest {block | Serves policy explicit block} blocks.length blocks

/-- A pool of a policy in which explicit subnets are reserved, and nothing else. -/
structure Guards (policy : Policy) (explicit : List Subnet) (pool : Pool) : Prop where
  range : Subnet.parse policy.range = .ok pool.range
  length : pool.blockLength = policy.subnetLength
  sound : pool.Sound
  bound : pool.indexBits < 128 → ∀ index < pool.size,
    pool.isBound index = true ↔ ∃ subnet ∈ explicit, (pool.block index).Meets subnet

/-- Every policy has its pool. -/
def Guarded (policies : List Policy) (explicit : List Subnet) (pools : Table Pool) : Prop :=
  ∀ policy ∈ policies, ∃ pool, pools[policy.name]? = some pool ∧ Guards policy explicit pool

section Pools

variable {policy : Policy} {explicit : List Subnet} {pool : Pool}

/-- A new pool of a policy. -/
theorem guards_of_ofRange {range : Subnet} (parsed : Subnet.parse policy.range = .ok range)
    (made : Pool.ofRange policy.name range policy.subnetLength = .ok pool) :
    Guards policy [] pool := by
  have sound := Pool.sound_of_ofRange made
  unfold Pool.ofRange at made
  split at made
  case isFalse => cases made
  case isTrue =>
    split at made
    case isFalse => cases made
    case isTrue =>
      cases made
      refine ⟨parsed, rfl, sound, fun _ index _ => ?_⟩
      simp [Pool.isBound, Spans.contains_nil]

/-- Reserving one more subnet. -/
theorem Guards.reserve (guards : Guards policy explicit pool) {subnet : Subnet} {after : Pool}
    (run : pool.reserve subnet = .ok after) : Guards policy (explicit ++ [subnet]) after := by
  obtain ⟨reserved, touched, done, binds, touches⟩ := guards.sound.reserve subnet
  cases run.symm.trans done
  have range := binds.range
  have length := binds.blockLength
  refine ⟨?_, ?_, binds.sound, fun few index below => ?_⟩
  · rw [range]
    exact guards.range
  · rw [length]
    exact guards.length
  · have fewer : pool.indexBits < 128 := by
      rwa [Pool.indexBits, range, length] at few
    rw [binds.size] at below
    rw [binds.bound index below, binds.block, guards.bound fewer index below,
      touches fewer index below]
    simp only [List.mem_append, List.mem_singleton, or_and_right, exists_or, exists_eq_left]
    exact or_comm

/-- A policy can hand out nothing. -/
theorem deals_nil : Deals policy explicit [] where
  serve := List.forall_mem_nil _
  apart := .nil
  lowest _ _ _ := Pool.lowest_nil

/-- A block with a free number serves the policy. -/
theorem Guards.serves_block (guards : Guards policy explicit pool) {index : Nat}
    (free : index ∈ pool.freeIndices) : Serves policy explicit (pool.block index) := by
  obtain ⟨below, unbound⟩ := Pool.mem_freeIndices.mp free
  refine ⟨pool.range, guards.range, Pool.covers_block below, guards.length, ?_⟩
  intro few subnet listed meets
  rw [← guards.length] at few
  cases unbound.symm.trans ((guards.bound few index below).mpr ⟨subnet, listed, meets⟩)

/-- What a policy serves are the blocks of its pool with a free number. -/
theorem Guards.serves_iff (guards : Guards policy explicit pool) (few : pool.indexBits < 128)
    {block : Subnet} :
    Serves policy explicit block ↔ ∃ index ∈ pool.freeIndices, block = pool.block index := by
  constructor
  · rintro ⟨range, parsed, inside, length, apart⟩
    cases parsed.symm.trans guards.range
    rw [← guards.length] at apart
    obtain ⟨below, same⟩ := Pool.exists_block (length.trans guards.length.symm) inside
    refine ⟨_, Pool.mem_freeIndices.mpr ⟨below, ?_⟩, same⟩
    rw [← Bool.not_eq_true, guards.bound few _ below, ← same]
    rintro ⟨subnet, listed, meets⟩
    exact apart few subnet listed meets
  · rintro ⟨index, free, rfl⟩
    exact guards.serves_block free

/-- A pool hands out what its policy hands out. -/
theorem Guards.take (guards : Guards policy explicit pool) {count : Nat} {blocks : List Subnet}
    (run : (pool.take count).1 = .ok blocks) :
    blocks.length = count ∧ Deals policy explicit blocks := by
  rcases Nat.lt_or_ge pool.freeIndices.length count with short | enough
  · obtain ⟨required, failed⟩ := guards.sound.take_of_short short
    rw [failed] at run
    cases run
  · obtain ⟨after, done, _⟩ := guards.sound.take_of_enough enough
    rw [done] at run
    cases run
    have below : ∀ index ∈ pool.freeIndices.take count, index < pool.size :=
      fun index listed => (Pool.mem_freeIndices.mp (List.mem_of_mem_take listed)).1
    have length : ((pool.freeIndices.take count).map pool.block).length = count := by
      rw [List.length_map, List.length_take, Nat.min_eq_left enough]
    refine ⟨length, fun block listed => ?_, ?_, fun range parsed few => ?_⟩
    · obtain ⟨index, taken, rfl⟩ := List.mem_map.mp listed
      exact guards.serves_block (List.mem_of_mem_take taken)
    · apply List.pairwise_map.mpr
      have sorted := pool.freeIndices_sorted.sublist (List.take_sublist count _)
      apply sorted.imp_of_mem
      intro left right leftTaken rightTaken order meets
      have same := Pool.eq_of_block_meets (below left leftTaken) (below right rightTaken) meets
      exact Nat.ne_of_lt order same
    · cases parsed.symm.trans guards.range
      rw [← guards.length] at few
      rw [length]
      exact Pool.lowest_take (fun block => guards.serves_iff few) enough

end Pools

section Preparation

variable {layer : Layer} {pools : Table Pool}

/-- The name of a policy is not among those of the policies before it. -/
theorem name_not_mem {policies done : List Policy} {policy : Policy}
    (names : (policies.map (·.name)).Nodup) (start : done ++ [policy] <+: policies) :
    policy.name ∉ done.map (·.name) := by
  have once := names.sublist (start.sublist.map _)
  rw [List.map_append] at once
  exact fun listed => (List.nodup_append.mp once).2.2 _ listed _ (List.mem_singleton_self _) rfl

/-- The pools of a layer, before anything is reserved. -/
theorem guarded_of_poolsOf (names : (layer.segmentPolicies.map (·.name)).Nodup)
    (run : poolsOf layer = .ok pools) : Guarded layer.segmentPolicies [] pools := by
  let motive (done : List Policy) (current : Table Pool) : Prop := Guarded done [] current
  apply Outcome.foldlM_induction (motive := motive) run (List.forall_mem_nil _)
  intro done policy current next start holds step other listed
  obtain ⟨range, read, step⟩ := Outcome.bind_eq_ok.mp step
  obtain ⟨pool, made, step⟩ := Outcome.bind_eq_ok.mp step
  cases step
  rcases List.mem_append.mp listed with old | last
  · obtain ⟨found, look, guards⟩ := holds other old
    have different : policy.name ≠ other.name := fun same =>
      name_not_mem names start (same ▸ List.mem_map_of_mem old)
    refine ⟨found, ?_, guards⟩
    rw [Table.getElem?_insert, if_neg different]
    exact look
  · cases List.mem_singleton.mp last
    refine ⟨pool, ?_, guards_of_ofRange (SegmentPlan.readSubnet_eq_ok read) made⟩
    rw [Table.getElem?_insert, if_pos rfl]

/-- The pools of a layer, with the subnets of some plans reserved in each. -/
theorem Guarded.reserveExplicit {policies : List Policy} {plans : List SegmentPlan}
    (guarded : Guarded policies [] pools) {after : Table Pool}
    (run : Addressing.reserveExplicit plans pools = .ok after) :
    Guarded policies (plans.filterMap (·.subnet)) after := by
  let motive (done : List Subnet) (current : Table Pool) : Prop := Guarded policies done current
  apply Outcome.foldlM_induction (motive := motive) run guarded
  intro done subnet current next _ holds step policy listed
  obtain ⟨pool, look, guards⟩ := holds policy listed
  obtain ⟨changed, reserved, found⟩ := Table.getElem?_updateAll step look
  exact ⟨changed, found, guards.reserve reserved⟩

end Preparation

section Filling

variable {policy : String} {plans : List SegmentPlan} {blocks : List Subnet}

/-- Filling plans touches their subnets only. -/
theorem map_unbound_fill (policy : String) (plans : List SegmentPlan) (blocks : List Subnet) :
    (fill policy plans blocks).map SegmentPlan.unbound = plans.map SegmentPlan.unbound := by
  fun_induction fill with
  | case1 => rfl
  | case2 => rfl
  | case3 plan rest block more waits inductionHypothesis =>
    rw [List.map_cons, inductionHypothesis]
    rfl
  | case4 plan rest block more waits inductionHypothesis =>
    rw [List.map_cons, inductionHypothesis]
    rfl

section Blocks

variable (Waiting : SegmentPlan → Prop)
  (stable : ∀ plan subnet, Waiting { plan with subnet } ↔ Waiting plan)
  (waits : ∀ plan ∈ plans, waitsFor policy plan = true ↔ Waiting plan)

include stable waits

/-- A plan that does not wait stays as it was. -/
theorem mem_of_mem_fill : ∀ plan ∈ fill policy plans blocks, ¬ Waiting plan → plan ∈ plans := by
  fun_induction fill with
  | case1 => exact List.forall_mem_nil _
  | case2 plans =>
    intro plan listed _
    exact listed
  | case3 plan rest block more waiting inductionHypothesis =>
    obtain ⟨head, tail⟩ := List.forall_mem_cons.mp waits
    refine List.forall_mem_cons.mpr ⟨?_, ?_⟩
    · intro idle
      exact absurd ((stable plan _).mpr (head.mp waiting)) idle
    · intro other listed idle
      exact List.mem_cons_of_mem plan (inductionHypothesis tail other listed idle)
  | case4 plan rest block more idle inductionHypothesis =>
    obtain ⟨_, tail⟩ := List.forall_mem_cons.mp waits
    refine List.forall_mem_cons.mpr ⟨fun _ => List.mem_cons_self, ?_⟩
    intro other listed idle
    exact List.mem_cons_of_mem plan (inductionHypothesis tail other listed idle)

/-- Plans that do not wait are listed as before. -/
theorem filter_fill {Other : SegmentPlan → Prop} [DecidablePred Other]
    (idle : ∀ plan, Other plan → ¬ Waiting plan) :
    (fill policy plans blocks).filter (Other ·) = plans.filter (Other ·) := by
  fun_induction fill with
  | case1 => rfl
  | case2 => rfl
  | case3 plan rest block more waiting inductionHypothesis =>
    obtain ⟨head, tail⟩ := List.forall_mem_cons.mp waits
    have before : ¬ Other plan := fun other => idle plan other (head.mp waiting)
    have behind : ¬ Other { plan with subnet := some block } := fun other =>
      idle _ other ((stable plan _).mpr (head.mp waiting))
    rw [List.filter_cons_of_neg (by simpa using behind),
      List.filter_cons_of_neg (by simpa using before), inductionHypothesis tail]
  | case4 plan rest block more _ inductionHypothesis =>
    obtain ⟨_, tail⟩ := List.forall_mem_cons.mp waits
    rw [List.filter_cons, List.filter_cons, inductionHypothesis tail]

variable [DecidablePred Waiting]

/-- The plans that wait get the blocks in turn. -/
theorem map_subnet_fill (enough : (plans.filter (waitsFor policy)).length = blocks.length) :
    ((fill policy plans blocks).filter (Waiting ·)).map (·.subnet) = blocks.map some := by
  fun_induction fill with
  | case1 blocks =>
    rw [List.eq_nil_of_length_eq_zero enough.symm]
    rfl
  | case2 plans =>
    have none : plans.filter (Waiting ·) = [] := by
      have same : plans.filter (Waiting ·) = plans.filter (waitsFor policy) := by
        apply List.filter_congr
        intro plan listed
        rw [Bool.eq_iff_iff, decide_eq_true_eq]
        exact (waits plan listed).symm
      rw [same, List.eq_nil_of_length_eq_zero enough]
    rw [none]
    rfl
  | case3 plan rest block more waiting inductionHypothesis =>
    rw [List.filter_cons_of_pos waiting, List.length_cons, List.length_cons] at enough
    obtain ⟨head, tail⟩ := List.forall_mem_cons.mp waits
    have still : Waiting { plan with subnet := some block } :=
      (stable plan _).mpr (head.mp waiting)
    rw [List.filter_cons_of_pos (by simpa using still), List.map_cons,
      inductionHypothesis tail (Nat.succ.inj enough), List.map_cons]
  | case4 plan rest block more idle inductionHypothesis =>
    rw [List.filter_cons_of_neg idle] at enough
    obtain ⟨head, tail⟩ := List.forall_mem_cons.mp waits
    have still : ¬ Waiting plan := fun waiting => idle (head.mpr waiting)
    rw [List.filter_cons_of_neg (by simpa using still), inductionHypothesis tail enough]

end Blocks

end Filling

/-- A plan without explicit data asks for a subnet of a policy. -/
def Waits (network : Network) (layer : Layer) (policy : Policy) (plan : SegmentPlan) : Prop :=
  ¬ network.HasExplicit layer plan.segment ∧ plan.policy = some policy.name

instance (network : Network) (layer : Layer) (policy : Policy) :
    DecidablePred (Waits network layer policy) :=
  fun _ => inferInstanceAs (Decidable (_ ∧ _))

/-- What holds when subnets of some policies have been given to the plans `plans`. -/
structure Completed (network : Network) (layer : Layer) (policies : List Policy)
    (plans current : List SegmentPlan) : Prop where
  requests : current.map SegmentPlan.unbound = plans.map SegmentPlan.unbound
  kept : ∀ plan ∈ current, (∀ policy ∈ policies, ¬ Waits network layer policy plan) → plan ∈ plans
  dealt : ∀ policy ∈ policies, ∃ blocks, (current.filter (Waits network layer policy ·)).map
    (·.subnet) = blocks.map some ∧ Deals policy (plans.filterMap (·.subnet)) blocks

section Completion

variable {network : Network} {config : Config} {layer : Layer} {plans current : List SegmentPlan}
  {done : List Policy} {policy : Policy}

/-- A plan waits for one policy at most. -/
theorem Waits.name_eq {plan : SegmentPlan} {other : Policy} (waits : Waits network layer policy plan)
    (also : Waits network layer other plan) : other.name = policy.name :=
  Option.some.inj (also.2.symm.trans waits.2)

/-- The plans that still lack a subnet of a policy are those that wait for it. -/
theorem Completed.waitsFor_iff (completed : Completed network layer done plans current)
    (described : ∀ plan ∈ plans,
      plan.subnet.isSome = true ↔ network.HasExplicit layer plan.segment)
    (fresh : policy.name ∉ done.map (·.name)) {plan : SegmentPlan} (listed : plan ∈ current) :
    waitsFor policy.name plan = true ↔ Waits network layer policy plan := by
  have asks : waitsFor policy.name plan = true ↔
      plan.subnet = none ∧ plan.policy = some policy.name := by
    simp [waitsFor]
  rw [asks]
  constructor
  · rintro ⟨unbound, chosen⟩
    refine ⟨?_, chosen⟩
    intro explicit
    have member : plan ∈ plans :=
      completed.kept plan listed fun other _ waits => waits.1 explicit
    have bound := (described plan member).mpr explicit
    rw [unbound] at bound
    cases bound
  · intro waits
    refine ⟨?_, waits.2⟩
    have member : plan ∈ plans := completed.kept plan listed fun other earlier also =>
      fresh (waits.name_eq also ▸ List.mem_map_of_mem earlier)
    by_contra bound
    exact waits.1 ((described plan member).mp (Option.isSome_iff_ne_none.mpr bound))

/-- One policy more, when no plan waits for it. -/
theorem Completed.skip (completed : Completed network layer done plans current)
    (none : ∀ plan ∈ current, ¬ Waits network layer policy plan) :
    Completed network layer (done ++ [policy]) plans current where
  requests := completed.requests
  kept plan listed idle :=
    completed.kept plan listed fun other earlier => idle other (List.mem_append_left _ earlier)
  dealt := by
    refine List.forall_mem_append.mpr ⟨completed.dealt, List.forall_mem_singleton.mpr ?_⟩
    have empty : current.filter (Waits network layer policy ·) = [] :=
      List.filter_eq_nil_iff.mpr fun plan listed => by simpa using none plan listed
    rw [empty]
    exact ⟨[], rfl, deals_nil⟩

/-- One policy more, when its pool hands out as many blocks as plans wait for it. -/
theorem Completed.fill (completed : Completed network layer done plans current)
    (fresh : policy.name ∉ done.map (·.name))
    (waits : ∀ plan ∈ current, waitsFor policy.name plan = true ↔ Waits network layer policy plan)
    {blocks : List Subnet}
    (enough : (current.filter (waitsFor policy.name)).length = blocks.length)
    (deals : Deals policy (plans.filterMap (·.subnet)) blocks) :
    Completed network layer (done ++ [policy]) plans
      (Addressing.fill policy.name current blocks) := by
  have stable : ∀ plan subnet, Waits network layer policy { plan with subnet } ↔
      Waits network layer policy plan := fun _ _ => Iff.rfl
  have idle : ∀ plan ∈ Addressing.fill policy.name current blocks,
      ¬ Waits network layer policy plan → plan ∈ current :=
    mem_of_mem_fill (Waits network layer policy) stable waits
  constructor
  · rw [map_unbound_fill]
    exact completed.requests
  · intro plan listed unserved
    obtain ⟨earlier, last⟩ := List.forall_mem_append.mp unserved
    have unserved := List.forall_mem_singleton.mp last
    exact completed.kept plan (idle plan listed unserved) earlier
  · refine List.forall_mem_append.mpr ⟨?_, List.forall_mem_singleton.mpr ?_⟩
    · intro other earlier
      rw [filter_fill (Waits network layer policy) stable waits fun plan also waiting =>
        fresh (waiting.name_eq also ▸ List.mem_map_of_mem earlier)]
      exact completed.dealt other earlier
    · exact ⟨blocks, map_subnet_fill (Waits network layer policy) stable waits enough, deals⟩

/-- The pools of the policies that are still to come are as they were. -/
def Untouched (policies : List Policy) (start pools : Table Pool) : Prop :=
  ∀ name, name ∉ policies.map (·.name) → pools[name]? = start[name]?

/-- Handing out subnets of one more policy. -/
theorem Completed.handOut {start pools after : Table Pool} {next : List SegmentPlan}
    (completed : Completed network layer done plans current) (untouched : Untouched done start pools)
    (described : ∀ plan ∈ plans,
      plan.subnet.isSome = true ↔ network.HasExplicit layer plan.segment)
    (fresh : policy.name ∉ done.map (·.name))
    (guarded : ∃ pool, start[policy.name]? = some pool ∧
      Guards policy (plans.filterMap (·.subnet)) pool)
    (run : Addressing.handOut layer (pools, current) policy = .ok (after, next)) :
    Completed network layer (done ++ [policy]) plans next ∧
      Untouched (done ++ [policy]) start after := by
  have waits (plan : SegmentPlan) (listed : plan ∈ current) :=
    completed.waitsFor_iff described fresh listed
  unfold Addressing.handOut at run
  dsimp only at run
  split at run
  case isTrue none =>
    cases run
    refine ⟨completed.skip fun plan listed waiting => ?_, fun name absent => untouched name ?_⟩
    · have member := List.mem_filter.mpr ⟨listed, (waits plan listed).mpr waiting⟩
      rw [List.eq_nil_of_length_eq_zero none] at member
      cases member
    · rw [List.map_append, List.mem_append, not_or] at absent
      exact absent.1
  case isFalse =>
    obtain ⟨pool, look, guards⟩ := guarded
    rw [untouched policy.name fresh, look] at run
    obtain ⟨blocks, taken, run⟩ := Outcome.bind_eq_ok.mp run
    cases run
    obtain ⟨enough, deals⟩ := guards.take taken
    refine ⟨completed.fill fresh waits enough.symm deals, ?_⟩
    intro name absent
    rw [List.map_append, List.mem_append, not_or] at absent
    have different : policy.name ≠ name := fun same =>
      absent.2 (same ▸ List.mem_singleton_self _)
    rw [Table.getElem?_insert, if_neg different]
    exact untouched name absent.1

/-- Before anything is handed out. -/
theorem completed_nil : Completed network layer [] plans plans where
  requests := rfl
  kept _ listed _ := listed
  dealt := List.forall_mem_nil _

/-- A plan that waits for a policy has a subnet that the policy serves. -/
theorem Completed.served (completed : Completed network layer done plans current)
    (policy : Policy) (given : policy ∈ done) (plan : SegmentPlan) (listed : plan ∈ current)
    (waits : Waits network layer policy plan) :
    ∃ block, plan.subnet = some block ∧ Serves policy (plans.filterMap (·.subnet)) block := by
  obtain ⟨blocks, same, deals⟩ := completed.dealt policy given
  have member : plan ∈ current.filter (Waits network layer policy ·) :=
    List.mem_filter.mpr ⟨listed, by simpa using waits⟩
  have found := List.mem_map_of_mem (f := (·.subnet)) member
  rw [same, List.mem_map] at found
  obtain ⟨block, inBlocks, chosen⟩ := found
  exact ⟨block, chosen.symm, deals.serve block inBlocks⟩

/-- Plans of different segments that wait for one policy have subnets that share no
address. -/
theorem Completed.apart (completed : Completed network layer done plans current)
    (policy : Policy) (given : policy ∈ done) (left : SegmentPlan) (leftListed : left ∈ current)
    (right : SegmentPlan) (rightListed : right ∈ current)
    (leftWaits : Waits network layer policy left) (rightWaits : Waits network layer policy right)
    (different : left.segment ≠ right.segment) (first : Subnet)
    (leftChosen : left.subnet = some first) (second : Subnet) (rightChosen : right.subnet = some second) : ¬ first.Meets second := by
  let Apart (left right : Option Subnet) : Prop :=
    ∀ first, left = some first → ∀ second, right = some second → ¬ first.Meets second
  obtain ⟨blocks, same, deals⟩ := completed.dealt policy given
  have blocksApart : (blocks.map some).Pairwise Apart := by
    refine List.pairwise_map.mpr (deals.apart.imp ?_)
    rintro left right apart _ ⟨⟩ _ ⟨⟩
    exact apart
  rw [← same, List.pairwise_map] at blocksApart
  have symmetric : Std.Symm fun left right : SegmentPlan => Apart left.subnet right.subnet := by
    constructor
    intro left right apart first leftSame second rightSame meets
    exact apart second rightSame first leftSame meets.symm
  have member : ∀ plan ∈ current, Waits network layer policy plan →
      plan ∈ current.filter (Waits network layer policy ·) := by
    intro plan listed waiting
    exact List.mem_filter.mpr ⟨listed, by simpa using waiting⟩
  exact blocksApart.forall (member left leftListed leftWaits) (member right rightListed rightWaits)
    (fun same => different (congrArg (·.segment) same)) first leftChosen second rightChosen

/-- There is one plan for each segment of the layer that has interfaces. -/
theorem plansOf_eq_ok (run : plansOf network config layer = .ok plans) :
    plans.map (·.segment) = (network.segmentsIn layer.name).filter (fun id =>
      !(network.segment id).interfaces.isEmpty) ∧
    ∀ plan ∈ plans, SegmentPlan.Describes network layer config plan.segment plan := by
  have each := Outcome.mapM_eq_ok run
  generalize (network.segmentsIn layer.name).filter (fun id =>
    !(network.segment id).interfaces.isEmpty) = ids at each
  clear run
  induction each with
  | nil => exact ⟨rfl, List.forall_mem_nil _⟩
  | cons made _ inductionHypothesis =>
    have describes := SegmentPlan.describes_of_ofSegment made
    have segment := describes.segment
    refine ⟨?_, List.forall_mem_cons.mpr ⟨segment.symm ▸ describes, inductionHypothesis.2⟩⟩
    rw [List.map_cons, inductionHypothesis.1, segment]

/-- Plans are completed with subnets of all policies of the layer. -/
theorem completed_of_completePlans (valid : config.validate = .ok ())
    (member : layer ∈ config.layers) {final : List SegmentPlan}
    (run : completePlans network config layer = .ok final) :
    ∃ plans, plansOf network config layer = .ok plans ∧
      Completed network layer layer.segmentPolicies plans final := by
  obtain ⟨fresh, made, run⟩ := Outcome.bind_eq_ok.mp run
  obtain ⟨plans, planned, run⟩ := Outcome.bind_eq_ok.mp run
  obtain ⟨reserved, reserve, run⟩ := Outcome.bind_eq_ok.mp run
  obtain ⟨⟨pools, _⟩, handed, run⟩ := Outcome.bind_eq_ok.mp run
  cases run
  refine ⟨plans, planned, ?_⟩
  have names : (layer.segmentPolicies.map (·.name)).Nodup :=
    (Config.policyNames_nodup valid member).sublist (List.filter_sublist.map _)
  have guarded := (guarded_of_poolsOf names made).reserveExplicit reserve
  have described : ∀ plan ∈ plans,
      plan.subnet.isSome = true ↔ network.HasExplicit layer plan.segment :=
    fun plan listed => ((plansOf_eq_ok planned).2 plan listed).explicit
  let motive (done : List Policy) (state : Table Pool × List SegmentPlan) : Prop :=
    Completed network layer done plans state.2 ∧ Untouched done reserved state.1
  have all : motive layer.segmentPolicies (pools, final) := by
    refine Outcome.foldlM_induction (motive := motive) handed
      (show motive [] (reserved, plans) from ⟨completed_nil, fun _ _ => rfl⟩) ?_
    rintro done policy ⟨current, asked⟩ ⟨after, next⟩ start ⟨completed, untouched⟩ step
    exact completed.handOut untouched described (name_not_mem names start)
      (guarded policy (Outcome.mem_of_concat_prefix start)) step
  exact all.1

end Completion

end Addressing

end TopoPlan
