import Mathlib.Tactic.Common
import TopoPlan.Network.Stage

/-!
# What stages keep

A frame relates a network to the ones that may follow it.  A stage is within a frame
when it leaves a related network, also where it fails; this is shown by the parts
that a stage is made of.  `outcome_bind_eq_ok` takes successful stages apart.
-/

namespace TopoPlan

/-- A relation between a network and what becomes of it. -/
structure Frame where
  holds : Network → Network → Prop
  refl : ∀ network, holds network network
  trans : ∀ {first second third}, holds first second → holds second third → holds first third

/-- What holds from the start stays. -/
def Frame.ofInvariant (invariant : Network → Prop) : Frame where
  holds before after := invariant before → invariant after
  refl _ := id
  trans first second := second ∘ first

/-- What every step of a fold keeps, the whole fold keeps. -/
theorem Frame.foldl_of_mem (frame : Frame) {State Entry : Type} (network : State → Network)
    {step : State → Entry → State} {entries : List Entry}
    (each : ∀ entry ∈ entries, ∀ state,
      frame.holds (network state) (network (step state entry))) (state : State) :
    frame.holds (network state) (network (entries.foldl step state)) := by
  induction entries generalizing state with
  | nil => exact frame.refl _
  | cons entry rest inductionHypothesis =>
    obtain ⟨first, others⟩ := List.forall_mem_cons.mp each
    exact frame.trans (first state) (inductionHypothesis others _)

/-- What a step of a fold keeps whatever the entry, the whole fold keeps. -/
theorem Frame.foldl (frame : Frame) {State Entry : Type} (network : State → Network)
    {step : State → Entry → State}
    (each : ∀ state entry, frame.holds (network state) (network (step state entry)))
    (state : State) (entries : List Entry) :
    frame.holds (network state) (network (entries.foldl step state)) :=
  frame.foldl_of_mem network (fun entry _ state => each state entry) state

/-- Adding a member is within a frame that does not look at lists of members. -/
theorem Frame.addMember (frame : Frame) {network : Network}
    (pushed : ∀ members, frame.holds network { network with members })
    (node : ∀ current id members, frame.holds current
      (current.updateNode id fun node => { node with members := node.members ++ members }))
    (interface : ∀ current id members, frame.holds current
      (current.updateInterface id fun interface =>
        { interface with members := interface.members ++ members }))
    (connection : ∀ current id members, frame.holds current
      (current.updateConnection id fun connection =>
        { connection with members := connection.members ++ members }))
    (member : Member) : frame.holds network (network.addMember member) := by
  unfold Network.addMember
  dsimp only
  split
  · exact frame.trans (pushed _) (node _ _ _)
  · exact frame.trans (pushed _) (interface _ _ _)
  · exact frame.trans (pushed _) (connection _ _ _)
  · exact pushed _

namespace Stage

variable {α β : Type}

@[simp]
theorem outcome_pure (value : α) (network : Network) :
    outcome (pure value) network = (.ok value, network) :=
  rfl

@[simp]
theorem outcome_throw (error : CompileError) (network : Network) :
    outcome (throw error : Stage α) network = (.error error, network) :=
  rfl

@[simp]
theorem outcome_get (network : Network) : outcome get network = (.ok network, network) :=
  rfl

@[simp]
theorem outcome_set (after network : Network) : outcome (set after) network = (.ok (), after) :=
  rfl

@[simp]
theorem outcome_modify (change : Network → Network) (network : Network) :
    outcome (modify change) network = (.ok (), change network) :=
  rfl

@[simp]
theorem outcome_ofExcept (result : Except CompileError α) (network : Network) :
    outcome (ofExcept result) network = (result, network) := by
  cases result <;> rfl

/-- One stage after another: the second starts where the first one ended. -/
theorem outcome_bind (stage : Stage α) (next : α → Stage β) (network : Network) :
    outcome (stage >>= next) network =
      match outcome stage network with
      | (.ok value, after) => outcome (next value) after
      | (.error error, after) => (.error error, after) := by
  simp only [outcome, bind, EStateM.bind, EStateM.run]
  cases stage network <;> rfl

@[simp]
theorem outcome_get_bind (next : Network → Stage β) (network : Network) :
    outcome (get >>= next) network = outcome (next network) network :=
  rfl

@[simp]
theorem outcome_modify_bind (change : Network → Network) (next : PUnit → Stage β)
    (network : Network) :
    outcome (modify change >>= next) network = outcome (next ()) (change network) :=
  rfl

/-- Two stages succeed when the first one does and the second one from there. -/
theorem outcome_bind_eq_ok {stage : Stage α} {next : α → Stage β} {network after : Network}
    {value : β} :
    outcome (stage >>= next) network = (.ok value, after) ↔
      ∃ between middle, outcome stage network = (.ok between, middle) ∧
        outcome (next between) middle = (.ok value, after) := by
  rw [outcome_bind]
  cases outcome stage network with
  | mk result middle => cases result <;> simp

/-- A change succeeds. -/
theorem outcome_modify_eq_ok {change : Network → Network} {network after : Network}
    {value : PUnit} :
    outcome (modify change) network = (.ok value, after) ↔ after = change network := by
  rw [outcome_modify, Prod.mk.injEq, and_iff_right rfl]
  exact eq_comm

/-- A look succeeds when there is a value, and changes nothing. -/
theorem outcome_ofExcept_eq_ok {result : Except CompileError α} {network after : Network}
    {value : α} :
    outcome (ofExcept result) network = (.ok value, after) ↔
      result = .ok value ∧ after = network := by
  rw [outcome_ofExcept, Prod.mk.injEq]
  exact and_congr_right fun _ => eq_comm

/-- A look that may fail, then a stage that depends on what was seen. -/
theorem outcome_ofExcept_bind_eq_ok {result : Except CompileError α} {next : α → Stage β}
    {network after : Network} {value : β} :
    outcome (ofExcept result >>= next) network = (.ok value, after) ↔
      ∃ seen, result = .ok seen ∧ outcome (next seen) network = (.ok value, after) := by
  rw [outcome_bind_eq_ok]
  constructor
  · rintro ⟨seen, middle, look, rest⟩
    obtain ⟨found, rfl⟩ := outcome_ofExcept_eq_ok.mp look
    exact ⟨seen, found, rest⟩
  · rintro ⟨seen, found, rest⟩
    exact ⟨seen, network, outcome_ofExcept_eq_ok.mpr ⟨found, rfl⟩, rest⟩

/-- Putting a network in place. -/
theorem outcome_set_eq_ok {network put after : Network} {value : PUnit} :
    outcome (set put) network = (.ok value, after) ↔ after = put := by
  rw [outcome_set, Prod.mk.injEq, and_iff_right rfl]
  exact eq_comm

/-- Something required is there when the stage succeeds. -/
theorem outcome_require_eq_ok {found : Option α} {error : CompileError}
    {network after : Network} {value : α} :
    outcome (require found error) network = (.ok value, after) ↔
      found = some value ∧ after = network := by
  cases found with
  | none => simp [require]
  | some content => simp [require, eq_comm]

/-- A stage for every entry of a list, one after the other. -/
theorem outcome_forM_cons_eq_ok {γ : Type} {entry : γ} {rest : List γ}
    {stage : γ → Stage PUnit} {network after : Network} :
    outcome ((entry :: rest).forM stage) network = (.ok ⟨⟩, after) ↔
      ∃ middle, outcome (stage entry) network = (.ok ⟨⟩, middle) ∧
        outcome (rest.forM stage) middle = (.ok ⟨⟩, after) := by
  change outcome (stage entry >>= fun _ => rest.forM stage) network = _ ↔ _
  rw [outcome_bind_eq_ok]
  exact ⟨fun ⟨_, found⟩ => found, fun found => ⟨⟨⟩, found⟩⟩

/-- Stages of a first list, then those of a second one. -/
theorem outcome_forM_append_eq_ok {γ : Type} {first second : List γ}
    {stage : γ → Stage PUnit} {network after : Network} :
    outcome ((first ++ second).forM stage) network = (.ok ⟨⟩, after) ↔
      ∃ middle, outcome (first.forM stage) network = (.ok ⟨⟩, middle) ∧
        outcome (second.forM stage) middle = (.ok ⟨⟩, after) := by
  induction first generalizing network with
  | nil =>
    constructor
    · exact fun run => ⟨network, rfl, run⟩
    · rintro ⟨_, start, run⟩
      cases start
      exact run
  | cons entry rest inductionHypothesis =>
    simp only [List.cons_append, outcome_forM_cons_eq_ok, inductionHypothesis]
    constructor
    · rintro ⟨middle, step, next, remaining, run⟩
      exact ⟨next, ⟨middle, step, remaining⟩, run⟩
    · rintro ⟨next, ⟨middle, step, remaining⟩, run⟩
      exact ⟨middle, step, next, remaining, run⟩

/-- Changes one after the other are a fold of changes. -/
theorem outcome_forM_eq_foldl {γ : Type} {entries : List γ} {stage : γ → Stage PUnit}
    {change : Network → γ → Network} {network after : Network}
    (each : ∀ entry ∈ entries, ∀ before next,
      outcome (stage entry) before = (.ok ⟨⟩, next) → next = change before entry)
    (run : outcome (entries.forM stage) network = (.ok ⟨⟩, after)) :
    after = entries.foldl change network := by
  induction entries generalizing network with
  | nil =>
    cases run
    rfl
  | cons entry rest inductionHypothesis =>
    obtain ⟨first, others⟩ := List.forall_mem_cons.mp each
    obtain ⟨middle, step, remaining⟩ := outcome_forM_cons_eq_ok.mp run
    rw [List.foldl_cons, ← first network middle step]
    exact inductionHypothesis others remaining

/-- What every stage of a list keeps when it succeeds, all of them keep. -/
theorem outcome_forM_induction {γ : Type} {entries : List γ} {stage : γ → Stage PUnit}
    (invariant : Network → Prop) {network after : Network}
    (each : ∀ entry ∈ entries, ∀ before next,
      outcome (stage entry) before = (.ok ⟨⟩, next) → invariant before → invariant next)
    (run : outcome (entries.forM stage) network = (.ok ⟨⟩, after))
    (start : invariant network) : invariant after := by
  induction entries generalizing network with
  | nil =>
    cases run
    exact start
  | cons entry rest inductionHypothesis =>
    obtain ⟨first, others⟩ := List.forall_mem_cons.mp each
    obtain ⟨middle, step, remaining⟩ := outcome_forM_cons_eq_ok.mp run
    exact inductionHypothesis others remaining (first network middle step start)

section Positions

variable {count : Nat} {stage : Nat → Stage PUnit} {network after : Network}
  (invariant : Nat → Network → Prop)
  (each : ∀ position < count, ∀ before next,
    outcome (stage position) before = (.ok ⟨⟩, next) → invariant position before →
      invariant (position + 1) next)

include each

/-- A stage for every position below a bound, in order: either all succeed, or one fails
where the ones before it succeeded. -/
theorem outcome_forM_range_cases (start : invariant 0 network) :
    (∃ after, outcome ((List.range count).forM stage) network = (.ok ⟨⟩, after) ∧
        invariant count after) ∨
      ∃ position < count, ∃ before error next, invariant position before ∧
        outcome (stage position) before = (.error error, next) ∧
          outcome ((List.range count).forM stage) network = (.error error, next) := by
  have visits (length first : Nat) (below : first + length = count) (before : Network)
      (known : invariant first before) :
      (∃ after, outcome ((List.range' first length).forM stage) before = (.ok ⟨⟩, after) ∧
          invariant count after) ∨
        ∃ position < count, ∃ middle error next, invariant position middle ∧
          outcome (stage position) middle = (.error error, next) ∧
            outcome ((List.range' first length).forM stage) before = (.error error, next) := by
    induction length generalizing first before with
    | zero => exact .inl ⟨before, rfl, below ▸ known⟩
    | succ length inductionHypothesis =>
      have unfolded : outcome ((List.range' first (length + 1)).forM stage) before =
          outcome (stage first >>= fun _ => (List.range' (first + 1) length).forM stage) before :=
        rfl
      rw [unfolded, outcome_bind]
      cases run : outcome (stage first) before with
      | mk result middle =>
        cases result with
        | error error => exact .inr ⟨first, by omega, before, error, middle, known, run, rfl⟩
        | ok =>
          exact inductionHypothesis (first + 1) (by omega) middle
            (each first (by omega) before middle run known)
  rw [List.range_eq_range']
  exact visits count 0 (Nat.zero_add count) network start

/-- What is known once all positions have been visited. -/
theorem outcome_forM_range
    (run : outcome ((List.range count).forM stage) network = (.ok ⟨⟩, after))
    (start : invariant 0 network) : invariant count after := by
  rcases outcome_forM_range_cases invariant each start with
    ⟨_, found, holds⟩ | ⟨_, _, _, _, _, _, _, failed⟩
  · cases run.symm.trans found
    exact holds
  · cases run.symm.trans failed

end Positions

/-- Stages that change nothing change nothing together. -/
theorem outcome_forM_of_idle {γ : Type} {entries : List γ} {stage : γ → Stage PUnit}
    {network : Network}
    (each : ∀ entry ∈ entries, outcome (stage entry) network = (.ok ⟨⟩, network)) :
    outcome (entries.forM stage) network = (.ok ⟨⟩, network) := by
  induction entries with
  | nil => rfl
  | cons entry rest inductionHypothesis =>
    obtain ⟨first, others⟩ := List.forall_mem_cons.mp each
    exact outcome_forM_cons_eq_ok.mpr ⟨network, first, inductionHypothesis others⟩

/-- Stages whose results do not depend on the network have together a result that does
not. -/
theorem outcome_forM_fst_congr {γ : Type} {entries : List γ} {stage : γ → Stage PUnit}
    (each : ∀ entry ∈ entries, ∀ before after : Network,
      (outcome (stage entry) after).1 = (outcome (stage entry) before).1)
    (before after : Network) :
    (outcome (entries.forM stage) after).1 = (outcome (entries.forM stage) before).1 := by
  induction entries generalizing before after with
  | nil => rfl
  | cons entry rest inductionHypothesis =>
    obtain ⟨first, others⟩ := List.forall_mem_cons.mp each
    change (outcome (stage entry >>= fun _ => rest.forM stage) after).1 =
      (outcome (stage entry >>= fun _ => rest.forM stage) before).1
    have same := first before after
    rw [outcome_bind, outcome_bind]
    generalize outcome (stage entry) before = found, outcome (stage entry) after = other at same ⊢
    obtain ⟨result, reached⟩ := found
    obtain ⟨_, otherReached⟩ := other
    cases same
    cases result with
    | error => rfl
    | ok => exact inductionHypothesis others reached otherReached

/-- Stages that each settle something, and do not undo what others settled, have settled
all of it in the end. -/
theorem outcome_forM_settles {γ : Type} {entries : List γ} {stage : γ → Stage PUnit}
    (invariant : Network → Prop) (settled : γ → Network → Prop) {network after : Network}
    (once : entries.Nodup)
    (settles : ∀ entry ∈ entries, ∀ before next,
      outcome (stage entry) before = (.ok ⟨⟩, next) → invariant before →
        invariant next ∧ settled entry next)
    (keeps : ∀ entry ∈ entries, ∀ other ∈ entries, other ≠ entry → ∀ before next,
      outcome (stage entry) before = (.ok ⟨⟩, next) → invariant before →
        settled other before → settled other next)
    (run : outcome (entries.forM stage) network = (.ok ⟨⟩, after))
    (start : invariant network) : invariant after ∧ ∀ entry ∈ entries, settled entry after := by
  induction entries generalizing network with
  | nil =>
    cases run
    exact ⟨start, List.forall_mem_nil _⟩
  | cons entry rest inductionHypothesis =>
    obtain ⟨middle, step, remaining⟩ := outcome_forM_cons_eq_ok.mp run
    obtain ⟨fresh, onceRest⟩ := List.nodup_cons.mp once
    obtain ⟨holds, first⟩ := settles entry List.mem_cons_self network middle step start
    have others := List.forall_mem_cons.mp settles
    have kept := inductionHypothesis onceRest others.2
      (fun one listed other otherListed => keeps one (List.mem_cons_of_mem _ listed) other
        (List.mem_cons_of_mem _ otherListed)) remaining holds
    refine ⟨kept.1, List.forall_mem_cons.mpr ⟨?_, kept.2⟩⟩
    let steady (current : Network) : Prop := invariant current ∧ settled entry current
    refine (outcome_forM_induction steady (fun other listed before next step holds => ?_) remaining
      ⟨holds, first⟩).2
    have different : entry ≠ other := fun same => fresh (same ▸ listed)
    exact ⟨(others.2 other listed before next step holds.1).1,
      keeps other (List.mem_cons_of_mem _ listed) entry List.mem_cons_self different before next
        step holds.1 holds.2⟩

/-- A stage that succeeds leaves the network found by looking. -/
theorem outcome_eq_ok {stage : Stage α} {network : Network} {value : α}
    (succeeds : (outcome stage network).1 = .ok value) :
    outcome stage network = (.ok value, (outcome stage network).2) :=
  Prod.ext succeeds rfl

/-- The network that a stage leaves is in the frame of the one that it was given. -/
def Within (frame : Frame) (stage : Stage α) : Prop :=
  ∀ network, frame.holds network (outcome stage network).2

variable {frame : Frame}

/-- What a stage stays within holds between start and end of its run. -/
theorem Within.holds {stage : Stage α} {network after : Network} {result : Except CompileError α}
    (within : Within frame stage) (run : outcome stage network = (result, after)) :
    frame.holds network after := by
  have kept := within network
  rw [run] at kept
  exact kept

@[simp]
theorem within_pure (value : α) : Within frame (pure value) :=
  fun network => frame.refl network

@[simp]
theorem within_throw (error : CompileError) : Within frame (throw error : Stage α) :=
  fun network => frame.refl network

@[simp]
theorem within_get : Within frame get :=
  fun network => frame.refl network

@[simp]
theorem within_ofExcept (result : Except CompileError α) : Within frame (ofExcept result) :=
  fun network => by
    rw [outcome_ofExcept]
    exact frame.refl network

@[simp]
theorem within_require (found : Option α) (error : CompileError) :
    Within frame (require found error) := by
  cases found <;> simp [require]

/-- A change that keeps the frame may be made. -/
theorem within_modify {change : Network → Network}
    (keeps : ∀ network, frame.holds network (change network)) : Within frame (modify change) :=
  keeps

/-- Two stages that keep the frame keep it one after the other. -/
theorem within_bind {stage : Stage α} {next : α → Stage β} (first : Within frame stage)
    (second : ∀ value, Within frame (next value)) : Within frame (stage >>= next) := by
  intro network
  have step := first network
  rw [outcome_bind]
  match outcome stage network, step with
  | (.ok value, _), step => exact frame.trans step (second value _)
  | (.error _, _), step => exact step

/-- A stage that starts with a look at the network may depend on what it sees. -/
theorem within_get_bind {next : Network → Stage β}
    (keeps : ∀ network, frame.holds network (outcome (next network) network).2) :
    Within frame (get >>= next) :=
  keeps

/-- Putting a network in place of the one looked at, then a stage that only looks. -/
theorem within_set_bind {network named : Network} {next : PUnit → Stage β}
    (keeps : frame.holds network named) (rest : Within frame (next ⟨⟩)) :
    frame.holds network (outcome (set named >>= next) network).2 :=
  frame.trans keeps (rest named)

/-- A look that may fail, then a stage that depends on what was seen. -/
theorem holds_ofExcept_bind {network : Network} {result : Except CompileError α}
    {next : α → Stage β}
    (keeps : ∀ value, result = .ok value → frame.holds network (outcome (next value) network).2) :
    frame.holds network (outcome (ofExcept result >>= next) network).2 := by
  cases result with
  | error => exact frame.refl network
  | ok value => exact keeps value rfl

/-- A choice keeps the frame that its branches keep. -/
theorem within_ite {condition : Prop} [Decidable condition] {first second : Stage α}
    (holds : condition → Within frame first) (fails : ¬ condition → Within frame second) :
    Within frame (if condition then first else second) := by
  split
  case isTrue true => exact holds true
  case isFalse false => exact fails false

/-- A round keeps the frame that each of its turns keeps. -/
theorem within_forM {γ : Type} {entries : List γ} {stage : γ → Stage PUnit}
    (each : ∀ entry ∈ entries, Within frame (stage entry)) :
    Within frame (entries.forM stage) := by
  induction entries with
  | nil => exact within_pure _
  | cons entry rest inductionHypothesis =>
    obtain ⟨first, others⟩ := List.forall_mem_cons.mp each
    exact within_bind first fun _ => inductionHypothesis others

end Stage

end TopoPlan
