import Mathlib.Tactic.Common
import TopoPlan.Address.Spans

/-!
# Spans as sets of numbers

Spans stand for the numbers that they contain.  Adding a span adds its numbers, the
free numbers are the others in order, and what is counted and what is free make up
all numbers below a limit.  All of this is limited to ordered spans, and adding keeps
the order.
-/

namespace TopoPlan.Spans

/-- No span is empty, and each ends before the next one starts. -/
structure Ordered (spans : Spans) : Prop where
  nonempty : ∀ span ∈ spans, span.first < span.stop
  apart : spans.Pairwise fun left right => left.stop < right.first

theorem Ordered.nil : Ordered [] :=
  ⟨by simp, List.Pairwise.nil⟩

/-- Spans are in order when the first one comes before all others and these are in order. -/
theorem ordered_cons {span : Span} {rest : Spans} :
    Ordered (span :: rest) ↔
      span.first < span.stop ∧ (∀ later ∈ rest, span.stop < later.first) ∧ Ordered rest := by
  constructor
  · rintro ⟨nonempty, apart⟩
    rw [List.pairwise_cons] at apart
    exact ⟨nonempty span List.mem_cons_self, apart.1,
      fun later found => nonempty later (List.mem_cons_of_mem _ found), apart.2⟩
  · rintro ⟨first, behind, rest⟩
    exact ⟨List.forall_mem_cons.mpr ⟨first, rest.nonempty⟩,
      List.pairwise_cons.mpr ⟨behind, rest.apart⟩⟩

/-- No index is in the empty list of spans. -/
@[simp]
theorem contains_nil (index : Nat) : contains [] index = false :=
  rfl

/-- An index is in the first span or in one of the others. -/
@[simp]
theorem contains_cons (span : Span) (rest : Spans) (index : Nat) :
    contains (span :: rest) index = true ↔
      (span.first ≤ index ∧ index < span.stop) ∨ contains rest index = true := by
  simp [contains]

/-- A contained number lies in one of the spans. -/
theorem contains_iff {spans : Spans} {index : Nat} :
    contains spans index = true ↔ ∃ span ∈ spans, span.first ≤ index ∧ index < span.stop := by
  simp [contains]

/-- Numbers before all spans are not contained. -/
theorem not_contains_of_before {spans : Spans} {index : Nat}
    (before : ∀ span ∈ spans, index < span.first) : contains spans index = false := by
  rw [Bool.eq_false_iff, Ne, contains_iff]
  rintro ⟨span, found, low, -⟩
  exact Nat.not_lt.mpr low (before span found)

/-- A bound below everything is still one after adding a span. -/
theorem before_add {bound first stop : Nat} {spans : Spans} (start : bound < first)
    (before : ∀ span ∈ spans, bound < span.first) :
    ∀ span ∈ add first stop spans, bound < span.first := by
  induction spans generalizing first stop with
  | nil => simpa [add] using start
  | cons span rest inductionHypothesis =>
    obtain ⟨here, later⟩ := List.forall_mem_cons.mp before
    unfold add
    split
    · exact List.forall_mem_cons.mpr ⟨start, before⟩
    · split
      · exact List.forall_mem_cons.mpr ⟨here, inductionHypothesis start later⟩
      · exact inductionHypothesis (Nat.lt_min.mpr ⟨start, here⟩) later

/-- Adding a span keeps spans ordered. -/
theorem Ordered.add {first stop : Nat} {spans : Spans} (ordered : Ordered spans)
    (nonempty : first < stop) : Ordered (spans.add first stop) := by
  induction spans generalizing first stop with
  | nil => exact ordered_cons.mpr ⟨nonempty, by simp, Ordered.nil⟩
  | cons span rest inductionHypothesis =>
    obtain ⟨here, behind, later⟩ := ordered_cons.mp ordered
    unfold Spans.add
    split
    case isTrue before =>
      refine ordered_cons.mpr ⟨nonempty, ?_, ordered⟩
      rintro other (_ | ⟨_, found⟩)
      · exact before
      · exact Nat.lt_trans before (Nat.lt_trans here (behind other found))
    case isFalse notBefore =>
      split
      case isTrue after =>
        exact ordered_cons.mpr ⟨here, before_add after behind, inductionHypothesis later nonempty⟩
      case isFalse notAfter => exact inductionHypothesis later (by omega)

/-- Adding a span adds exactly its numbers. -/
theorem contains_add {first stop index : Nat} {spans : Spans} (ordered : Ordered spans)
    (nonempty : first < stop) :
    (spans.add first stop).contains index = true ↔
      (first ≤ index ∧ index < stop) ∨ spans.contains index = true := by
  induction spans generalizing first stop with
  | nil => simp [add]
  | cons span rest inductionHypothesis =>
    obtain ⟨here, behind, later⟩ := ordered_cons.mp ordered
    unfold add
    split
    case isTrue before => simp
    case isFalse notBefore =>
      split
      case isTrue after =>
        rw [contains_cons, contains_cons, inductionHypothesis later nonempty, or_left_comm]
      case isFalse notAfter =>
        rw [inductionHypothesis later (by omega), contains_cons, ← or_assoc]
        -- The two spans touch or overlap, so together they are one.
        have joined : (min first span.first ≤ index ∧ index < max stop span.stop) ↔
            (first ≤ index ∧ index < stop) ∨ (span.first ≤ index ∧ index < span.stop) := by
          omega
        rw [joined]

/-- Everything that is contained lies below a limit of all spans, also after adding
a span below it. -/
theorem stop_le_add {first stop limit : Nat} {spans : Spans} (below : stop ≤ limit)
    (limited : ∀ span ∈ spans, span.stop ≤ limit) :
    ∀ span ∈ spans.add first stop, span.stop ≤ limit := by
  induction spans generalizing first stop with
  | nil => simpa [add] using below
  | cons span rest inductionHypothesis =>
    obtain ⟨here, later⟩ := List.forall_mem_cons.mp limited
    unfold add
    split
    · exact List.forall_mem_cons.mpr ⟨below, limited⟩
    · split
      · exact List.forall_mem_cons.mpr ⟨here, inductionHypothesis below later⟩
      · exact inductionHypothesis (Nat.max_le.mpr ⟨below, here⟩) later

/-- The numbers from `start` on and below `limit` that no span contains. -/
def gaps (spans : Spans) (start limit : Nat) : List Nat :=
  (List.range' start (limit - start)).filter fun index => !spans.contains index

/-- Without spans, everything from the start to the limit is a gap. -/
@[simp]
theorem gaps_nil (start limit : Nat) : gaps [] start limit = List.range' start (limit - start) :=
  List.filter_eq_self.mpr fun _ _ => rfl

/-- A run of numbers, cut at any place. -/
theorem range'_split (start cut limit : Nat) :
    List.range' start (limit - start) =
      List.range' start (min cut limit - start) ++
        List.range' (max start cut) (limit - max start cut) := by
  rcases Nat.le_total cut start with behind | before
  · have empty : min cut limit - start = 0 := by omega
    rw [empty, Nat.max_eq_left behind]
    rfl
  · rcases Nat.le_total limit cut with short | long
    · have empty : limit - max start cut = 0 := by omega
      rw [empty, Nat.min_eq_right short]
      simp
    · have next : max start cut = start + (min cut limit - start) := by omega
      have rest : limit - start = (min cut limit - start) + (limit - max start cut) := by omega
      rw [rest, next, List.range'_append_1]

/-- The gaps are what stands before the first span and the gaps of the others behind it. -/
theorem gaps_cons {span : Span} {rest : Spans} (ordered : Ordered (span :: rest))
    (start limit : Nat) :
    gaps (span :: rest) start limit =
      List.range' start (min span.first limit - start) ++
        gaps rest (max start span.stop) limit := by
  obtain ⟨here, behind, -⟩ := ordered_cons.mp ordered
  have front : (List.range' start (min span.first limit - start)).filter
      (fun index => !contains (span :: rest) index) =
      List.range' start (min span.first limit - start) := by
    rw [List.filter_eq_self]
    intro index found
    have position := List.mem_range'_1.mp found
    rw [not_contains_of_before]
    · rfl
    · rintro other (_ | ⟨_, later⟩)
      · omega
      · have := behind other later
        omega
  have inside : (List.range' (max start span.first)
      (min span.stop limit - max start span.first)).filter
      (fun index => !contains (span :: rest) index) = [] := by
    rw [List.filter_eq_nil_iff]
    intro index found
    have position := List.mem_range'_1.mp found
    have contained : contains (span :: rest) index = true :=
      (contains_cons span rest index).mpr (.inl (by omega))
    simp [contained]
  have next : max (max start span.first) span.stop = max start span.stop := by omega
  have back : ∀ index ∈ List.range' (max start span.stop) (limit - max start span.stop),
      (!contains (span :: rest) index) = !contains rest index := by
    intro index found
    have position := List.mem_range'_1.mp found
    have outside : ¬ (span.first ≤ index ∧ index < span.stop) := by omega
    rw [Bool.not_inj_iff, Bool.eq_iff_iff, contains_cons]
    simp [outside]
  rw [gaps, range'_split start span.first limit, List.filter_append, front,
    range'_split (max start span.first) span.stop limit, List.filter_append, inside, next,
    List.nil_append, List.filter_congr back, gaps]

/-- Every number below the limit is counted or a gap. -/
theorem count_add_length_gaps {start limit : Nat} {spans : Spans} (ordered : Ordered spans)
    (limited : ∀ span ∈ spans, span.stop ≤ limit) (before : ∀ span ∈ spans, start ≤ span.first) :
    spans.count + (spans.gaps start limit).length = limit - start := by
  induction spans generalizing start with
  | nil => simp [count]
  | cons span rest inductionHypothesis =>
    obtain ⟨here, behind, later⟩ := ordered_cons.mp ordered
    obtain ⟨hereLimited, laterLimited⟩ := List.forall_mem_cons.mp limited
    have startBefore : start ≤ span.first := before span List.mem_cons_self
    have countRest := inductionHypothesis later laterLimited
      fun other found => Nat.le_of_lt (behind other found)
    have countHere : count (span :: rest) = (span.stop - span.first) + count rest := by
      simp [count]
    have next : max start span.stop = span.stop := by omega
    rw [gaps_cons ordered, List.length_append, List.length_range', next, countHere]
    omega

/-- The start of a run of numbers is a run. -/
theorem take_range' (needed start length : Nat) :
    (List.range' start length).take needed = List.range' start (min needed length) := by
  rcases Nat.le_total length needed with long | short
  · rw [List.take_range'_of_length_le long, Nat.min_eq_right long]
  · rw [List.take_range'_of_length_ge short, Nat.min_eq_left short]

/-- The free numbers are the first gaps. -/
theorem free_eq_take_gaps {spans : Spans} (ordered : Ordered spans) (start limit needed : Nat) :
    spans.free start limit needed = (spans.gaps start limit).take needed := by
  induction spans generalizing start needed with
  | nil => simp [free, take_range']
  | cons span rest inductionHypothesis =>
    have later := (ordered_cons.mp ordered).2.2
    rw [gaps_cons ordered, List.take_append, free, inductionHypothesis later]
    simp only [List.length_range', take_range']
    congr 2
    omega

end TopoPlan.Spans
