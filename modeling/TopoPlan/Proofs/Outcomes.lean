import Mathlib.Tactic.Common
import Mathlib.Data.List.Basic

/-!
# Computations that succeeded

What is known when a computation that may fail has given a value: each of its parts
gave one.  For folds there is an induction over the entries done so far.
-/

namespace TopoPlan.Outcome

variable {α β ε Entry State : Type}

/-- A composition gives a value when both parts do. -/
theorem bind_eq_ok {first : Except ε α} {next : α → Except ε β} {value : β} :
    (first >>= next) = .ok value ↔ ∃ between, first = .ok between ∧ next between = .ok value := by
  cases first with
  | error error => exact ⟨fun failed => (nomatch failed), fun ⟨_, failed, _⟩ => nomatch failed⟩
  | ok between =>
    constructor
    · intro rest
      exact ⟨between, rfl, rest⟩
    · rintro ⟨_, same, rest⟩
      cases same
      exact rest

/-- A changed value is there when the value was. -/
theorem map_eq_ok {result : Except ε α} {change : α → β} {value : β} :
    result.map change = .ok value ↔ ∃ before, result = .ok before ∧ change before = value := by
  cases result with
  | error error => exact ⟨fun failed => (nomatch failed), fun ⟨_, failed, _⟩ => nomatch failed⟩
  | ok before =>
    constructor
    · rintro ⟨⟩
      exact ⟨before, rfl, rfl⟩
    · rintro ⟨_, ⟨⟩, rfl⟩
      rfl

/-- A composition fails where its first part does, or its second part from the value of the
first. -/
theorem bind_eq_error {first : Except ε α} {next : α → Except ε β} {error : ε} :
    (first >>= next) = .error error ↔
      first = .error error ∨ ∃ between, first = .ok between ∧ next between = .error error := by
  cases first with
  | error other =>
    constructor
    · rintro ⟨⟩
      exact .inl rfl
    · rintro (failed | ⟨_, same, _⟩)
      · cases failed
        rfl
      · cases same
  | ok between =>
    constructor
    · exact fun failed => .inr ⟨between, rfl, failed⟩
    · rintro (same | ⟨_, same, failed⟩)
      · cases same
      · cases same
        exact failed

/-- A changed value is missing when the value was. -/
theorem map_eq_error {result : Except ε α} {change : α → β} {error : ε} :
    result.map change = .error error ↔ result = .error error := by
  cases result with
  | error other => exact ⟨fun | rfl => rfl, fun | rfl => rfl⟩
  | ok before => exact ⟨fun failed => (nomatch failed), fun failed => nomatch failed⟩

/-- A computation that succeeds gives the value found by looking. -/
theorem eq_ok_of_isOk {result : Except ε α} (absent : α) (succeeds : result.isOk = true) :
    result = .ok (result.toOption.getD absent) := by
  cases result with
  | error => cases succeeds
  | ok value => rfl

/-- Induction over a fold that gave a value: what holds at the start and is kept by
every step that gives a value holds in the end. -/
theorem foldlM_induction {motive : List Entry → State → Prop}
    {step : State → Entry → Except ε State} {entries : List Entry} {start final : State}
    (run : entries.foldlM step start = .ok final) (base : motive [] start)
    (preserves : ∀ done entry state next, done ++ [entry] <+: entries → motive done state →
      step state entry = .ok next → motive (done ++ [entry]) next) :
    motive entries final := by
  have general : ∀ rest done state, done ++ rest = entries → motive done state →
      rest.foldlM step state = .ok final → motive entries final := by
    intro rest
    induction rest with
    | nil =>
      intro done state whole holds run
      cases run
      rw [List.append_nil] at whole
      rw [← whole]
      exact holds
    | cons entry rest inductionHypothesis =>
      intro done state whole holds run
      rw [List.foldlM_cons] at run
      obtain ⟨next, first, others⟩ := bind_eq_ok.mp run
      have split : done ++ [entry] ++ rest = entries := by
        rw [List.append_assoc, List.singleton_append]
        exact whole
      exact inductionHypothesis _ next split
        (preserves done entry state next ⟨rest, split⟩ holds first) others
  exact general entries [] start (List.nil_append _) base run

/-- A fold gives a value when every step does that starts from what holds there. -/
theorem exists_foldlM_induction {motive : List Entry → State → Prop}
    {step : State → Entry → Except ε State} {entries : List Entry} {start : State}
    (base : motive [] start)
    (succeeds : ∀ done entry state, done ++ [entry] <+: entries → motive done state →
      ∃ next, step state entry = .ok next ∧ motive (done ++ [entry]) next) :
    ∃ final, entries.foldlM step start = .ok final ∧ motive entries final := by
  have general : ∀ rest done state, done ++ rest = entries → motive done state →
      ∃ final, rest.foldlM step state = .ok final ∧ motive entries final := by
    intro rest
    induction rest with
    | nil =>
      intro done state whole holds
      rw [List.append_nil] at whole
      subst whole
      exact ⟨state, rfl, holds⟩
    | cons entry rest inductionHypothesis =>
      intro done state whole holds
      rw [List.append_cons] at whole
      obtain ⟨next, run, holds⟩ := succeeds done entry state ⟨rest, whole⟩ holds
      obtain ⟨final, more, holds⟩ := inductionHypothesis (done ++ [entry]) next whole holds
      exact ⟨final, List.foldlM_cons.trans (bind_eq_ok.mpr ⟨next, run, more⟩), holds⟩
  exact general entries [] start (List.nil_append _) base

/-- A fold gives a value when all its steps do, whatever they start from. -/
theorem exists_foldlM {step : State → Entry → Except ε State} {entries : List Entry}
    (each : ∀ entry ∈ entries, ∀ state, ∃ next, step state entry = .ok next) (start : State) :
    ∃ final, entries.foldlM step start = .ok final := by
  induction entries generalizing start with
  | nil => exact ⟨start, rfl⟩
  | cons entry rest inductionHypothesis =>
    obtain ⟨first, others⟩ := List.forall_mem_cons.mp each
    obtain ⟨next, run⟩ := first start
    obtain ⟨final, more⟩ := inductionHypothesis others next
    exact ⟨final, List.foldlM_cons.trans (bind_eq_ok.mpr ⟨next, run, more⟩)⟩

/-- The entry of the last step of a prefix is one of the entries. -/
theorem mem_of_concat_prefix {entries done : List Entry} {entry : Entry}
    (start : done ++ [entry] <+: entries) : entry ∈ entries :=
  start.subset (List.mem_append_right _ (List.mem_singleton_self _))

/-- A fold that failed did so in one of its steps, after those before it gave a value. -/
theorem exists_prefix_of_foldlM_eq_error {step : State → Entry → Except ε State}
    {entries : List Entry} {start : State} {error : ε}
    (failed : entries.foldlM step start = .error error) :
    ∃ done entry state, done ++ [entry] <+: entries ∧ done.foldlM step start = .ok state ∧
      step state entry = .error error := by
  induction entries generalizing start with
  | nil => cases failed
  | cons entry rest inductionHypothesis =>
    rw [List.foldlM_cons] at failed
    rcases bind_eq_error.mp failed with first | ⟨next, first, others⟩
    · exact ⟨[], entry, start, List.cons_prefix_cons.mpr ⟨rfl, List.nil_prefix⟩, rfl, first⟩
    · obtain ⟨done, other, state, start, run, found⟩ := inductionHypothesis others
      exact ⟨entry :: done, other, state, List.cons_prefix_cons.mpr ⟨rfl, start⟩,
        List.foldlM_cons.trans (bind_eq_ok.mpr ⟨next, first, run⟩), found⟩

/-- A fold that failed did so in one of its steps. -/
theorem exists_step_of_foldlM_eq_error {step : State → Entry → Except ε State}
    {entries : List Entry} {start : State} {error : ε}
    (failed : entries.foldlM step start = .error error) :
    ∃ entry ∈ entries, ∃ state, step state entry = .error error := by
  obtain ⟨done, entry, state, start, _, found⟩ := exists_prefix_of_foldlM_eq_error failed
  exact ⟨entry, mem_of_concat_prefix start, state, found⟩

/-- A fold fails with the first entry whose step does, whatever it starts from. -/
theorem foldlM_eq_error {step : State → Entry → Except ε State} {done rest : List Entry}
    {entry : Entry} {error : ε}
    (before : ∀ other ∈ done, ∀ state, ∃ next, step state other = .ok next)
    (fails : ∀ state, step state entry = .error error) (start : State) :
    (done ++ entry :: rest).foldlM step start = .error error := by
  obtain ⟨reached, run⟩ := exists_foldlM before start
  rw [List.foldlM_append, run]
  change (entry :: rest).foldlM step reached = .error error
  rw [List.foldlM_cons, fails]
  rfl

/-- What the step of a fold does that looks for one value on which all entries agree: an
entry without a value changes nothing, and the value of any other entry is the one found
before or the first one. -/
def Agrees (proposed bound next : Option α) : Prop :=
  (proposed = none ∧ next = bound) ∨
    ∃ value, proposed = some value ∧ next = some value ∧ (bound = none ∨ bound = some value)

/-- The value found is the one of every entry that has one, and of some entry. -/
theorem foldlM_agrees {step : Option α → Entry → Except ε (Option α)} {entries : List Entry}
    {final : Option α} (propose : Entry → Option α)
    (run : entries.foldlM step none = .ok final)
    (each : ∀ entry bound next, step bound entry = .ok next → Agrees (propose entry) bound next) :
    (∀ entry ∈ entries, ∀ value, propose entry = some value → final = some value) ∧
      ∀ value, final = some value → ∃ entry ∈ entries, propose entry = some value := by
  let motive (done : List Entry) (bound : Option α) : Prop :=
    (∀ entry ∈ done, ∀ value, propose entry = some value → bound = some value) ∧
      ∀ value, bound = some value → ∃ entry ∈ done, propose entry = some value
  refine foldlM_induction (motive := motive) run
    ⟨List.forall_mem_nil _, fun _ none => nomatch none⟩ ?_
  rintro done entry bound next _ ⟨agree, found⟩ run
  rcases each entry bound next run with ⟨free, rfl⟩ | ⟨value, proposed, rfl, before⟩
  · constructor
    · refine List.forall_mem_append.mpr ⟨agree, List.forall_mem_singleton.mpr ?_⟩
      intro value proposed
      rw [free] at proposed
      cases proposed
    · intro value same
      obtain ⟨other, listed, proposed⟩ := found value same
      exact ⟨other, List.mem_append_left _ listed, proposed⟩
  · constructor
    · refine List.forall_mem_append.mpr ⟨?_, List.forall_mem_singleton.mpr ?_⟩
      · intro other listed earlier proposedEarlier
        have same := agree other listed earlier proposedEarlier
        rcases before with none | some
        · cases none.symm.trans same
        · exact some.symm.trans same
      · intro other proposedOther
        exact proposed.symm.trans proposedOther
    · intro other same
      cases same
      exact ⟨entry, List.mem_append_right _ (List.mem_singleton_self _), proposed⟩

/-- Every step of a fold that gave a value did so. -/
theorem exists_step_of_foldlM {step : State → Entry → Except ε State} {entries : List Entry}
    {start final : State} (run : entries.foldlM step start = .ok final) :
    ∀ entry ∈ entries, ∃ state next, step state entry = .ok next := by
  let motive (done : List Entry) (_ : State) : Prop :=
    ∀ entry ∈ done, ∃ state next, step state entry = .ok next
  apply foldlM_induction (motive := motive) run (List.forall_mem_nil _)
  intro done entry state next _ earlier run
  refine List.forall_mem_append.mpr ⟨earlier, List.forall_mem_singleton.mpr ?_⟩
  exact ⟨state, next, run⟩

/-- Folds with the same steps are the same. -/
theorem foldlM_congr {step other : State → Entry → Except ε State} {entries : List Entry}
    (same : ∀ entry ∈ entries, ∀ state, step state entry = other state entry) (start : State) :
    entries.foldlM step start = entries.foldlM other start := by
  induction entries generalizing start with
  | nil => rfl
  | cons entry rest inductionHypothesis =>
    obtain ⟨first, others⟩ := List.forall_mem_cons.mp same
    rw [List.foldlM_cons, List.foldlM_cons, first]
    exact bind_congr fun next => inductionHypothesis others next

/-- Maps that give the same for each entry are the same. -/
theorem mapM_congr {change other : Entry → Except ε α} {entries : List Entry}
    (same : ∀ entry ∈ entries, change entry = other entry) :
    entries.mapM change = entries.mapM other := by
  induction entries with
  | nil => rfl
  | cons entry rest inductionHypothesis =>
    obtain ⟨first, others⟩ := List.forall_mem_cons.mp same
    rw [List.mapM_cons, List.mapM_cons, first, inductionHypothesis others]

/-- A map that gave values did so entry by entry. -/
theorem mapM_eq_ok {change : Entry → Except ε α} {entries : List Entry} {values : List α}
    (run : entries.mapM change = .ok values) :
    List.Forall₂ (fun entry value => change entry = .ok value) entries values := by
  induction entries generalizing values with
  | nil =>
    cases run
    exact .nil
  | cons entry rest inductionHypothesis =>
    rw [List.mapM_cons] at run
    obtain ⟨value, first, others⟩ := bind_eq_ok.mp run
    obtain ⟨more, mapped, same⟩ := bind_eq_ok.mp others
    cases same
    exact .cons first (inductionHypothesis mapped)

/-- The values of a map that gave values are those of its entries. -/
theorem mem_mapM_iff {change : Entry → Except ε α} {entries : List Entry} {values : List α}
    (run : entries.mapM change = .ok values) {value : α} :
    value ∈ values ↔ ∃ entry ∈ entries, change entry = .ok value := by
  have each := mapM_eq_ok run
  clear run
  induction each with
  | nil => simp
  | cons first _ inductionHypothesis => simp [inductionHypothesis, first, eq_comm]

/-- A map that gave values gave one for each entry. -/
theorem exists_of_mapM {change : Entry → Except ε α} {entries : List Entry} {values : List α}
    (run : entries.mapM change = .ok values) :
    ∀ entry ∈ entries, ∃ value, change entry = .ok value := by
  have each := mapM_eq_ok run
  clear run
  induction each with
  | nil => exact List.forall_mem_nil _
  | cons first _ inductionHypothesis =>
    exact List.forall_mem_cons.mpr ⟨⟨_, first⟩, inductionHypothesis⟩

/-- Values that are kept with what they were made of. -/
theorem mapM_pair_eq_ok {change : Entry → Except ε α} {entries : List Entry}
    {pairs : List (Entry × α)}
    (run : (entries.mapM fun entry => do
      let value ← change entry
      pure (entry, value)) = .ok pairs) :
    pairs.map Prod.fst = entries ∧ ∀ pair ∈ pairs, change pair.1 = .ok pair.2 := by
  have each := mapM_eq_ok run
  clear run
  induction each with
  | nil => exact ⟨rfl, List.forall_mem_nil _⟩
  | cons first _ inductionHypothesis =>
    obtain ⟨value, made, same⟩ := bind_eq_ok.mp first
    cases same
    obtain ⟨rfl, others⟩ := inductionHypothesis
    exact ⟨rfl, List.forall_mem_cons.mpr ⟨made, others⟩⟩

/-- A map that failed did so for one of its entries. -/
theorem exists_of_mapM_eq_error {change : Entry → Except ε α} {entries : List Entry} {error : ε}
    (failed : entries.mapM change = .error error) :
    ∃ entry ∈ entries, change entry = .error error := by
  induction entries with
  | nil => cases failed
  | cons entry rest inductionHypothesis =>
    rw [List.mapM_cons] at failed
    rcases bind_eq_error.mp failed with first | ⟨_, _, others⟩
    · exact ⟨entry, List.mem_cons_self, first⟩
    · rcases bind_eq_error.mp others with found | ⟨_, _, pure⟩
      · obtain ⟨other, listed, found⟩ := inductionHypothesis found
        exact ⟨other, List.mem_cons_of_mem _ listed, found⟩
      · cases pure

/-- A map gives values when all its entries do. -/
theorem exists_mapM {change : Entry → Except ε α} {entries : List Entry}
    (each : ∀ entry ∈ entries, ∃ value, change entry = .ok value) :
    ∃ values, entries.mapM change = .ok values := by
  induction entries with
  | nil => exact ⟨[], rfl⟩
  | cons entry rest inductionHypothesis =>
    obtain ⟨⟨value, first⟩, others⟩ := List.forall_mem_cons.mp each
    obtain ⟨values, mapped⟩ := inductionHypothesis others
    refine ⟨value :: values, ?_⟩
    rw [List.mapM_cons, first, mapped]
    rfl

/-- A map gives the values that its entries give. -/
theorem mapM_of_forall {change : Entry → Except ε α} {entries : List Entry} {value : Entry → α}
    (each : ∀ entry ∈ entries, change entry = .ok (value entry)) :
    entries.mapM change = .ok (entries.map value) := by
  induction entries with
  | nil => rfl
  | cons entry rest inductionHypothesis =>
    obtain ⟨first, others⟩ := List.forall_mem_cons.mp each
    rw [List.mapM_cons, first, inductionHypothesis others]
    rfl

/-- A map fails with the first entry that does. -/
theorem mapM_eq_error {change : Entry → Except ε α} {done rest : List Entry} {entry : Entry}
    {error : ε} (before : ∀ other ∈ done, ∃ value, change other = .ok value)
    (fails : change entry = .error error) : (done ++ entry :: rest).mapM change = .error error := by
  obtain ⟨values, mapped⟩ := exists_mapM before
  rw [List.mapM_append, mapped, List.mapM_cons, fails]
  rfl

/-- A check of all entries that succeeded did so for each. -/
theorem forM_eq_ok {check : Entry → Except ε Unit} {entries : List Entry}
    (run : entries.forM check = .ok ()) : ∀ entry ∈ entries, check entry = .ok () := by
  induction entries with
  | nil => exact List.forall_mem_nil _
  | cons entry rest inductionHypothesis =>
    change (check entry >>= fun _ => rest.forM check) = .ok () at run
    obtain ⟨_, first, others⟩ := bind_eq_ok.mp run
    exact List.forall_mem_cons.mpr ⟨first, inductionHypothesis others⟩

/-- A check of all entries succeeds when it does so for each. -/
theorem forM_of_forall {check : Entry → Except ε Unit} {entries : List Entry}
    (each : ∀ entry ∈ entries, check entry = .ok ()) : entries.forM check = .ok () := by
  induction entries with
  | nil => rfl
  | cons entry rest inductionHypothesis =>
    obtain ⟨first, others⟩ := List.forall_mem_cons.mp each
    change (check entry >>= fun _ => rest.forM check) = .ok ()
    exact bind_eq_ok.mpr ⟨(), first, inductionHypothesis others⟩

end TopoPlan.Outcome
