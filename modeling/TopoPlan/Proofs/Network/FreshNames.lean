import Mathlib.Data.List.Nodup
import Mathlib.Data.List.Perm.Subperm
import Mathlib.Logic.Function.Basic
import Mathlib.Order.Bounds.Basic
import TopoPlan.Network.Naming
import TopoPlan.Proofs.Address.Digits
import TopoPlan.Proofs.Dependency.Order
import TopoPlan.Proofs.Text.Cutting

/-!
# New names

Numbers of a stem are tried one after the other and never again, so all that were tried are
taken: `Counting` is this invariant, and because of it a new name has the least number whose
name is free, although the search does not start over.  Objects are named one by one; the
main statement, `leastNames_foldl`, says which number each of them gets, and
`LeastNames.nodup_iff` that names can only be the same if they were given.
-/

namespace TopoPlan

namespace NamePool

variable {taken : NameSet} {stem text : String} {start left right steps number : Nat}
  {pool : NamePool}

/-- A name made of a stem and a number is not empty. -/
theorem isEmpty_numbered (stem : String) (number : Nat) :
    (numbered stem number).isEmpty = false := by
  unfold numbered Numeral.text
  rw [String.isEmpty_eq_false_iff]
  simp

/-- Different numbers give different names. -/
theorem numbered_inj (same : numbered stem left = numbered stem right) : left = right :=
  Numeral.text_inj (Text.append_inj_right same)

/-- Some number of a stem is free, since the names of different numbers differ. -/
theorem exists_free (taken : NameSet) (stem : String) (number : Nat) :
    ∃ free, number ≤ free ∧ free < number + (taken.size + 1) ∧ numbered stem free ∉ taken := by
  by_contra none
  push Not at none
  let names := (List.range' number (taken.size + 1)).map (numbered stem)
  have once : names.Nodup := List.Nodup.map (fun _ _ => numbered_inj) List.nodup_range'
  have inside : names ⊆ taken.toList := by
    intro name listed
    obtain ⟨tried, range, rfl⟩ := List.mem_map.mp listed
    obtain ⟨low, high⟩ := List.mem_range'_1.mp range
    exact Std.ExtTreeSet.mem_toList.mpr (none tried low high)
  have length := (List.subperm_of_subset once inside).length_le
  simp [names] at length

/-- The search ends at the first free number, if there are steps enough. -/
theorem firstFree_isLeast
    (free : ∃ free, number ≤ free ∧ free < number + steps ∧ numbered stem free ∉ taken) :
    IsLeast {free | number ≤ free ∧ numbered stem free ∉ taken}
      (firstFree taken stem steps number) := by
  induction steps generalizing number with
  | zero =>
    obtain ⟨free, low, high, _⟩ := free
    omega
  | succ steps inductionHypothesis =>
    unfold firstFree
    split
    case isTrue here =>
      rw [Std.ExtTreeSet.contains_iff_mem] at here
      have later {free : Nat} (low : number ≤ free) (untaken : numbered stem free ∉ taken) :
          number + 1 ≤ free := by
        have different : free ≠ number := fun same => untaken (same ▸ here)
        omega
      obtain ⟨free, low, high, untaken⟩ := free
      obtain ⟨⟨above, found⟩, least⟩ :=
        inductionHypothesis ⟨free, later low untaken, by omega, untaken⟩
      exact ⟨⟨Nat.le_of_succ_le above, found⟩,
        fun other ⟨low, untaken⟩ => least ⟨later low untaken, untaken⟩⟩
    case isFalse here =>
      rw [Std.ExtTreeSet.contains_iff_mem] at here
      exact ⟨⟨Nat.le_refl _, here⟩, fun other found => found.1⟩

/-- Every number of a stem that was tried, from the start on, is taken. -/
structure Counting (start : Nat) (pool : NamePool) : Prop where
  start_le : ∀ stem, start ≤ pool.counters.getD stem start
  tried : ∀ stem number, start ≤ number → number < pool.counters.getD stem start →
    numbered stem number ∈ pool.taken

/-- Nothing was tried yet. -/
theorem counting_of_taken (start : Nat) (taken : NameSet) : Counting start { taken } where
  start_le stem := by simp
  tried stem number low high := by
    simp at high
    omega

/-- A new name is taken besides the others. -/
theorem mem_taken_fresh : text ∈ (pool.fresh stem start).2.taken ↔
    text = (pool.fresh stem start).1 ∨ text ∈ pool.taken := by
  simp [fresh, eq_comm (a := text)]

/-- A new name is the one with the least free number from the start on. -/
theorem Counting.exists_number (counting : pool.Counting start) (stem : String) :
    ∃ number, IsLeast {free | start ≤ free ∧ numbered stem free ∉ pool.taken} number ∧
      (pool.fresh stem start).1 = numbered stem number := by
  have low := counting.start_le stem
  obtain ⟨⟨above, untaken⟩, least⟩ := firstFree_isLeast
    (exists_free pool.taken stem (pool.counters.getD stem start))
  refine ⟨_, ⟨⟨Nat.le_trans low above, untaken⟩, fun other ⟨lower, free⟩ => least ⟨?_, free⟩⟩, rfl⟩
  by_contra tried
  exact free (counting.tried stem other lower (Nat.lt_of_not_le tried))

/-- A new name goes on counting. -/
theorem Counting.fresh (counting : pool.Counting start) (stem : String) :
    (pool.fresh stem start).2.Counting start := by
  have search := firstFree_isLeast
    (exists_free pool.taken stem (pool.counters.getD stem start))
  have low := counting.start_le stem
  have counters (other : String) : (pool.fresh stem start).2.counters.getD other start =
      if stem = other then
        firstFree pool.taken stem (pool.taken.size + 1) (pool.counters.getD stem start) + 1
      else pool.counters.getD other start := by
    simp [NamePool.fresh, Std.ExtTreeMap.getD_insert]
  constructor
  · intro other
    rw [counters]
    split
    · have above := search.1.1
      omega
    · exact counting.start_le other
  · intro other number lower below
    rw [mem_taken_fresh]
    rw [counters] at below
    split at below
    case isFalse => exact .inr (counting.tried other number lower below)
    case isTrue here =>
      subst here
      by_cases last : number =
          firstFree pool.taken stem (pool.taken.size + 1) (pool.counters.getD stem start)
      · exact .inl (congrArg (numbered stem) last)
      · right
        by_contra untaken
        have before : number < pool.counters.getD stem start := by
          by_contra above
          have least := search.2 ⟨Nat.le_of_not_lt above, untaken⟩
          omega
        exact untaken (counting.tried stem number lower before)

/-- No name is repeated when none is found that was seen before. -/
theorem firstRepeated_seen {seen names : List String} :
    firstRepeated seen names = none ↔ (∀ name ∈ names, name ∉ seen) ∧ names.Nodup := by
  induction names generalizing seen with
  | nil => simp [firstRepeated]
  | cons name rest inductionHypothesis =>
    unfold firstRepeated
    rw [List.forall_mem_cons, List.nodup_cons]
    split
    case isTrue known =>
      rw [List.contains_iff_mem] at known
      simp [known]
    case isFalse new =>
      rw [List.contains_iff_mem] at new
      rw [inductionHypothesis]
      simp only [List.mem_cons, not_or]
      grind

/-- No name is repeated exactly when the names are apart. -/
theorem firstRepeated_eq_none {names : List String} :
    firstRepeated [] names = none ↔ names.Nodup := by
  rw [firstRepeated_seen]
  simp

end NamePool

/-- The name of an object, and the stem of a new one. -/
structure Title where
  name : String
  stem : String

namespace Naming

/-- Name an object, unless its name is kept. -/
def nameTitle (start : Nat) (keeps : String → Bool) (state : NamePool × (Nat → Title))
    (id : Nat) : NamePool × (Nat → Title) :=
  let (pool, titles) := state
  if keeps (titles id).name then state
  else
    let (name, pool) := pool.fresh (titles id).stem start
    (pool, Function.update titles id { titles id with name })

/-- The names of objects that are kept. -/
def givenNames (keeps : String → Bool) (ids : List Nat) (titles : Nat → Title) : List String :=
  (ids.map fun id => (titles id).name).filter keeps

section Least

variable (start : Nat) (keeps : String → Bool) (given : List String) (ids : List Nat)
  (before after : Nat → Title)

/-- A new name must not be a given one, and not the new name of an earlier object. -/
def Taken (id : Nat) (text : String) : Prop :=
  text ∈ given ∨ ∃ earlier, Precedes ids earlier id ∧ keeps (before earlier).name = false ∧
    (after earlier).name = text

/-- Names are kept, or made of the stem and the least number that makes a name that is not
taken. -/
structure LeastNames : Prop where
  kept : ∀ id ∈ ids, keeps (before id).name = true → after id = before id
  new : ∀ id ∈ ids, keeps (before id).name = false →
    ∃ number, IsLeast {free | start ≤ free ∧ ¬ Taken keeps given ids before after id
        (NamePool.numbered (before id).stem free)} number ∧
      after id = { before id with name := NamePool.numbered (before id).stem number }

/-- What holds once some objects have been named, one after the other. -/
structure Named (state : NamePool × (Nat → Title)) : Prop where
  counting : state.1.Counting start
  taken : ∀ text, text ∈ state.1.taken ↔
    text ∈ given ∨ ∃ id ∈ ids, keeps (before id).name = false ∧ (state.2 id).name = text
  least : LeastNames start keeps given ids before state.2
  others : ∀ id, id ∉ ids → state.2 id = before id

end Least

variable {start : Nat} {keeps : String → Bool} {given : List String} {ids : List Nat}
  {before after : Nat → Title} {state : NamePool × (Nat → Title)} {id : Nat} {text : String}

/-- A name that is kept uses up no number. -/
theorem nameTitle_of_keeps (keep : keeps (state.2 id).name = true) :
    nameTitle start keeps state id = state :=
  if_pos keep

/-- A name that is changed takes the next number of its stem. -/
theorem nameTitle_of_changes (change : keeps (state.2 id).name = false) :
    nameTitle start keeps state id =
      ((state.1.fresh (state.2 id).stem start).2,
        Function.update state.2 id
          { state.2 id with name := (state.1.fresh (state.2 id).stem start).1 }) :=
  if_neg (ne_true_of_eq_false change)

/-- What is taken for an object is told by the names of earlier objects. -/
theorem taken_congr {first last : Nat → Title} {more : List Nat}
    (precedes : ∀ earlier, Precedes more earlier id ↔ Precedes ids earlier id)
    (starts : ∀ earlier ∈ ids, first earlier = before earlier)
    (ends : ∀ earlier ∈ ids, last earlier = after earlier) :
    Taken keeps given more first last id text ↔ Taken keeps given ids before after id text := by
  unfold Taken
  simp only [precedes]
  refine or_congr_right (exists_congr fun earlier => and_congr_right fun found => ?_)
  rw [starts earlier found.left, ends earlier found.left]

/-- What is taken for the last object. -/
theorem taken_last (last : id ∉ ids) {next : Nat → Title}
    (same : ∀ earlier ∈ ids, next earlier = after earlier) :
    Taken keeps given (ids ++ [id]) before next id text ↔
      text ∈ given ∨ ∃ earlier ∈ ids, keeps (before earlier).name = false ∧
        (after earlier).name = text := by
  have precedes (earlier : Nat) : Precedes (ids ++ [id]) earlier id ↔ earlier ∈ ids := by
    rw [precedes_concat, or_iff_right fun found => last found.right, and_iff_left rfl]
  unfold Taken
  simp only [precedes]
  refine or_congr_right (exists_congr fun earlier => and_congr_right fun listed => ?_)
  rw [same earlier listed]

/-- One object more with the least name. -/
theorem LeastNames.snoc (least : LeastNames start keeps given ids before after) (last : id ∉ ids)
    {next : Nat → Title} (same : ∀ earlier ∈ ids, next earlier = after earlier)
    (kept : keeps (before id).name = true → next id = before id)
    (new : keeps (before id).name = false →
      ∃ number, IsLeast {free | start ≤ free ∧
          ¬ Taken keeps given (ids ++ [id]) before next id
            (NamePool.numbered (before id).stem free)} number ∧
        next id = { before id with name := NamePool.numbered (before id).stem number }) :
    LeastNames start keeps given (ids ++ [id]) before next where
  kept := by
    refine List.forall_mem_append.mpr ⟨fun earlier listed keep => ?_,
      List.forall_mem_singleton.mpr kept⟩
    rw [same earlier listed, least.kept earlier listed keep]
  new := by
    refine List.forall_mem_append.mpr ⟨fun earlier listed change => ?_,
      List.forall_mem_singleton.mpr new⟩
    obtain ⟨number, isLeast, named⟩ := least.new earlier listed change
    have different : earlier ≠ id := fun here => last (here ▸ listed)
    have precedes (first : Nat) : Precedes (ids ++ [id]) first earlier ↔
        Precedes ids first earlier := by
      rw [precedes_concat, or_iff_left fun found => different found.2]
    refine ⟨number, ?_, (same earlier listed).trans named⟩
    simp only [taken_congr precedes (fun _ _ => rfl) same]
    exact isLeast

/-- One object more that keeps its name. -/
theorem Named.keep (named : Named start keeps given ids before state) (last : id ∉ ids)
    (keep : keeps (before id).name = true) :
    Named start keeps given (ids ++ [id]) before state where
  counting := named.counting
  taken text := by
    rw [named.taken]
    simp [keep]
  least := named.least.snoc last (fun _ _ => rfl) (fun _ => named.others id last) fun change => by
    rw [keep] at change
    cases change
  others other absent := named.others other fun listed => absent (List.mem_append_left _ listed)

/-- One object more that gets a new name. -/
theorem Named.rename {pool : NamePool} {titles : Nat → Title}
    (named : Named start keeps given ids before (pool, titles)) (last : id ∉ ids)
    (change : keeps (before id).name = false) :
    Named start keeps given (ids ++ [id]) before
      ((pool.fresh (before id).stem start).2,
        Function.update titles id
          { before id with name := (pool.fresh (before id).stem start).1 }) := by
  obtain ⟨number, isLeast, fresh⟩ := named.counting.exists_number (before id).stem
  rw [fresh]
  have same (earlier : Nat) (listed : earlier ∈ ids) (title : Title) :
      Function.update titles id title earlier = titles earlier := by
    apply Function.update_of_ne
    rintro rfl
    exact last listed
  constructor
  case counting => exact named.counting.fresh _
  case taken =>
    intro text
    rw [NamePool.mem_taken_fresh, named.taken, fresh, or_comm, or_assoc, eq_comm]
    simp only [List.mem_append, List.mem_singleton, or_and_right, exists_or, exists_eq_left,
      Function.update_self, change, true_and]
    refine or_congr_right (or_congr_left (exists_congr fun earlier => ?_))
    refine and_congr_right fun listed => ?_
    rw [same earlier listed]
  case least =>
    refine named.least.snoc last (fun earlier listed => same earlier listed _) ?_ fun _ => ?_
    · rw [change]
      exact fun keep => nomatch keep
    · refine ⟨number, ?_, Function.update_self ..⟩
      simp only [taken_last last fun earlier listed => same earlier listed _]
      simpa only [named.taken] using isLeast
  case others =>
    intro other absent
    rw [List.mem_append, List.mem_singleton, not_or] at absent
    exact (Function.update_of_ne absent.2 _ _).trans (named.others other absent.1)

/-- One object more that is named if it has to be. -/
theorem Named.snoc (named : Named start keeps given ids before state) (last : id ∉ ids) :
    Named start keeps given (ids ++ [id]) before (nameTitle start keeps state id) := by
  have title : state.2 id = before id := named.others id last
  cases keep : keeps (before id).name with
  | true =>
    rw [nameTitle_of_keeps (title ▸ keep)]
    exact named.keep last keep
  | false =>
    rw [nameTitle_of_changes (title ▸ keep), title]
    exact named.rename last keep

/-- Naming one object after the other gives each the least name, when only the given names
are taken at first. -/
theorem named_foldl (start : Nat) (keeps : String → Bool) (given : List String)
    (before : Nat → Title) (once : ids.Nodup) :
    Named start keeps given ids before
      (ids.foldl (nameTitle start keeps) ({ taken := NameSet.addAll {} given }, before)) := by
  induction ids using List.reverseRecOn with
  | nil =>
    exact
      { counting := NamePool.counting_of_taken start _
        taken := by simp [NameSet.mem_addAll]
        least := ⟨List.forall_mem_nil _, List.forall_mem_nil _⟩
        others := fun _ _ => rfl }
  | append_singleton ids id inductionHypothesis =>
    obtain ⟨onceBefore, _, apart⟩ := List.nodup_append.mp once
    rw [List.foldl_append]
    exact (inductionHypothesis onceBefore).snoc
      fun listed => apart id listed id (List.mem_singleton_self id) rfl

namespace LeastNames

/-- The names of other objects do not matter. -/
theorem congr {given : List String} {first last : Nat → Title}
    (least : LeastNames start keeps given ids before after)
    (starts : ∀ id ∈ ids, first id = before id) (ends : ∀ id ∈ ids, last id = after id) :
    LeastNames start keeps given ids first last := by
  constructor
  · intro id listed
    rw [starts id listed, ends id listed]
    exact least.kept id listed
  · intro id listed
    simp only [taken_congr (fun _ => Iff.rfl) starts ends, starts id listed, ends id listed]
    exact least.new id listed

/-- Objects have names in the end, if only names are kept. -/
theorem isEmpty (least : LeastNames start keeps given ids before after)
    (never : keeps "" = false) (id : Nat) (listed : id ∈ ids) :
    (after id).name.isEmpty = false := by
  cases keep : keeps (before id).name with
  | true =>
    rw [least.kept id listed keep, String.isEmpty_eq_false_iff]
    intro empty
    rw [empty, never] at keep
    cases keep
  | false =>
    obtain ⟨number, _, named⟩ := least.new id listed keep
    rw [named]
    exact NamePool.isEmpty_numbered _ _

/-- A new name was free. -/
theorem not_taken (least : LeastNames start keeps given ids before after) (id : Nat)
    (listed : id ∈ ids) (change : keeps (before id).name = false) :
    ¬ Taken keeps given ids before after id (after id).name := by
  obtain ⟨number, isLeast, named⟩ := least.new id listed change
  rw [named]
  exact isLeast.1.2

/-- Names are pairwise different in the end when the given ones are. -/
theorem nodup_iff (least : LeastNames start keeps (givenNames keeps ids before) ids before after) :
    (ids.map fun id => (after id).name).Nodup ↔ (givenNames keeps ids before).Nodup := by
  have given : givenNames keeps ids before =
      (ids.filter fun id => keeps (before id).name).map fun id => (before id).name :=
    List.filter_map
  constructor
  · intro different
    have kept : givenNames keeps ids before =
        (ids.filter fun id => keeps (before id).name).map fun id => (after id).name := by
      rw [given]
      apply List.map_congr_left
      intro id filtered
      obtain ⟨listed, keep⟩ := List.mem_filter.mp filtered
      rw [least.kept id listed keep]
    rw [kept]
    exact different.sublist (List.filter_sublist.map _)
  · intro different
    have member {id : Nat} (listed : id ∈ ids) (keep : keeps (before id).name = true) :
        (after id).name ∈ givenNames keeps ids before := by
      rw [given, least.kept id listed keep]
      exact List.mem_map.mpr ⟨id, List.mem_filter.mpr ⟨listed, keep⟩, rfl⟩
    rw [given, List.Nodup, List.pairwise_map, List.pairwise_filter,
      List.pairwise_iff_forall_sublist] at different
    rw [List.Nodup, List.pairwise_map, List.pairwise_iff_forall_sublist]
    intro first second precedes same
    have left := Precedes.left precedes
    have right := Precedes.right precedes
    cases keepSecond : keeps (before second).name with
    | false =>
      apply least.not_taken second right keepSecond
      rw [← same]
      cases keepFirst : keeps (before first).name with
      | false => exact .inr ⟨first, precedes, keepFirst, rfl⟩
      | true => exact .inl (member left keepFirst)
    | true =>
      cases keepFirst : keeps (before first).name with
      | false =>
        apply least.not_taken first left keepFirst
        rw [same]
        exact .inl (member right keepSecond)
      | true =>
        rw [least.kept first left keepFirst, least.kept second right keepSecond] at same
        exact different precedes keepFirst keepSecond same

end LeastNames

end Naming

end TopoPlan
