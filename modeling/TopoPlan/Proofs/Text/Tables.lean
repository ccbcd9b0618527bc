import Mathlib.Data.List.Nodup
import TopoPlan.Proofs.Outcomes
import TopoPlan.Text.Table

/-!
# Look-ups in tables

What is found under a name after entries were set, or after all values were changed.
-/

namespace TopoPlan.Table

variable {α ε : Type}

/-- Only the name of the new entry is affected. -/
theorem getElem?_insert (table : Table α) (name other : String) (value : α) :
    (table.insert name value)[other]? = if name = other then some value else table[other]? := by
  rw [Std.ExtTreeMap.getElem?_insert]
  simp

/-- A value more in the list under a name. -/
theorem getD_push (table : Table (List α)) (name other : String) (value : α) :
    (table.push name value).getD other [] =
      if other = name then table.getD other [] ++ [value] else table.getD other [] := by
  simp only [push, Std.ExtTreeMap.getD_insert, Std.LawfulEqCmp.compare_eq_iff_eq,
    eq_comm (a := name)]
  split
  case isTrue same => rw [same]
  case isFalse => rfl

/-- The last entry is set last. -/
theorem setAll_concat (table : Table α) (entries : List (String × α)) (entry : String × α) :
    table.setAll (entries ++ [entry]) = (table.setAll entries).insert entry.1 entry.2 :=
  List.foldl_append

/-- The last new entry of a name counts, or else what was there before. -/
theorem getElem?_setAll {table : Table α} {entries : List (String × α)} {name : String} :
    (table.setAll entries)[name]? = (entries.reverse.lookup name).or table[name]? := by
  unfold setAll
  induction entries generalizing table with
  | nil => rfl
  | cons entry rest inductionHypothesis =>
    obtain ⟨first, value⟩ := entry
    rw [List.foldl_cons, inductionHypothesis, getElem?_insert, List.reverse_cons,
      List.lookup_append, Option.or_assoc]
    by_cases same : first = name
    · subst same
      simp
    · have different : (name == first) = false := beq_false_of_ne (Ne.symm same)
      simp [List.lookup_cons, same, different]

/-- Names without a new entry are found as before. -/
theorem getElem?_setAll_of_not_mem {table : Table α} {entries : List (String × α)} {name : String}
    (absent : name ∉ entries.map Prod.fst) : (table.setAll entries)[name]? = table[name]? := by
  unfold setAll
  induction entries generalizing table with
  | nil => rfl
  | cons entry rest inductionHypothesis =>
    rw [List.map_cons, List.mem_cons, not_or] at absent
    rw [List.foldl_cons, inductionHypothesis absent.2, getElem?_insert, if_neg (Ne.symm absent.1)]

/-- The value under a name is the one of its last new entry. -/
theorem getElem?_setAll_of_mem {table : Table α} {entries : List (String × α)} {name : String}
    {value : α} (once : (entries.map Prod.fst).Nodup) (listed : (name, value) ∈ entries) :
    (table.setAll entries)[name]? = some value := by
  unfold setAll
  induction entries generalizing table with
  | nil => cases listed
  | cons entry rest inductionHypothesis =>
    rw [List.map_cons, List.nodup_cons] at once
    rw [List.foldl_cons]
    rcases List.mem_cons.mp listed with rfl | listed
    · refine (getElem?_setAll_of_not_mem once.1).trans ?_
      rw [getElem?_insert, if_pos rfl]
    · exact inductionHypothesis once.2 listed

/-- What is found was there before or is one of the new entries. -/
theorem mem_of_getElem?_setAll {table : Table α} {entries : List (String × α)} {name : String}
    {value : α} (found : (table.setAll entries)[name]? = some value) :
    table[name]? = some value ∨ (name, value) ∈ entries := by
  unfold setAll at found
  induction entries generalizing table with
  | nil => exact .inl found
  | cons entry rest inductionHypothesis =>
    rcases inductionHypothesis found with before | listed
    · rw [getElem?_insert] at before
      split at before
      case isTrue same =>
        cases before
        cases same
        exact .inr List.mem_cons_self
      case isFalse => exact .inl before
    · exact .inr (List.mem_cons_of_mem _ listed)

/-- A value that is there already. -/
theorem insert_eq_self {table : Table α} {name : String} {value : α}
    (there : table[name]? = some value) : table.insert name value = table := by
  ext other : 1
  rw [getElem?_insert]
  split
  case isTrue same => rw [← there, same]
  case isFalse => rfl

/-- Values that are all there already. -/
theorem setAll_eq_self {table : Table α} {entries : List (String × α)}
    (there : ∀ entry ∈ entries, table[entry.1]? = some entry.2) :
    table.setAll entries = table := by
  induction entries with
  | nil => rfl
  | cons entry rest inductionHypothesis =>
    obtain ⟨first, others⟩ := List.forall_mem_cons.mp there
    change setAll (table.insert entry.1 entry.2) rest = table
    rw [insert_eq_self first]
    exact inductionHypothesis others

/-- A name that is taken already. -/
theorem insertIfNew_eq_self {table : Table α} {name : String} (value : α) (taken : name ∈ table) :
    table.insertIfNew name value = table := by
  ext other : 1
  rw [Std.ExtTreeMap.getElem?_insertIfNew]
  split
  case isTrue new => exact absurd taken new.2
  case isFalse => rfl

/-- New entries count where there was none; of several with one name the first counts. -/
theorem getElem?_addAll {table : Table α} {entries : List (String × α)} {name : String} :
    (table.addAll entries)[name]? = table[name]?.or (entries.lookup name) := by
  unfold addAll
  induction entries generalizing table with
  | nil => simp
  | cons entry rest inductionHypothesis =>
    obtain ⟨first, value⟩ := entry
    rw [List.foldl_cons, inductionHypothesis, Std.ExtTreeMap.getElem?_insertIfNew]
    simp only [Std.LawfulEqCmp.compare_eq_iff_eq, List.lookup_cons]
    by_cases same : first = name
    · subst same
      cases found : table[first]? with
      | none =>
        have absent : first ∉ table := by
          rw [Std.ExtTreeMap.mem_iff_isSome_getElem?, found]
          exact Bool.false_ne_true
        simp [absent]
      | some old =>
        have present : first ∈ table := by
          rw [Std.ExtTreeMap.mem_iff_isSome_getElem?, found]
          rfl
        simp [present]
    · have different : (name == first) = false := beq_false_of_ne (Ne.symm same)
      simp [same, different]

/-- What is found in a list is in it. -/
theorem mem_of_lookup {Key : Type} [BEq Key] [LawfulBEq Key] {entries : List (Key × α)}
    {key : Key} {value : α} (found : entries.lookup key = some value) : (key, value) ∈ entries := by
  obtain ⟨before, after, split, _⟩ := List.lookup_eq_some_iff.mp found
  rw [split]
  exact List.mem_append_right _ List.mem_cons_self

/-- The only value of a key is found. -/
theorem lookup_of_mem {Key : Type} [BEq Key] [LawfulBEq Key] {entries : List (Key × α)}
    {key : Key} {value : α} (listed : (key, value) ∈ entries)
    (only : ∀ other, (key, other) ∈ entries → other = value) : entries.lookup key = some value := by
  obtain ⟨other, found⟩ := Option.isSome_iff_exists.mp
    (List.lookup_isSome_iff.mpr ⟨(key, value), listed, beq_self_eq_true key⟩)
  rw [found, only other (mem_of_lookup found)]

/-- The list of a table has what is found in the table. -/
theorem lookup_toList (table : Table α) (name : String) :
    table.toList.lookup name = table[name]? := by
  ext value
  rw [← Std.ExtTreeMap.mem_toList_iff_getElem?_eq_some]
  constructor
  · exact mem_of_lookup
  · intro listed
    refine lookup_of_mem listed fun other otherListed => ?_
    rw [Std.ExtTreeMap.mem_toList_iff_getElem?_eq_some] at listed otherListed
    exact Option.some.inj (otherListed.symm.trans listed)

/-- The values of a table are collected in its order. -/
theorem values_eq_foldr (table : Table α) :
    table.values = table.foldr (fun _ value rest => value :: rest) [] := by
  obtain ⟨inner⟩ := table
  induction inner using Std.ExtDTreeMap.inductionOn with
  | mk => rfl

/-- Values are listed in the order of their names. -/
theorem values_eq (table : Table α) : table.values = table.toList.map Prod.snd := by
  rw [values_eq_foldr, Std.ExtTreeMap.foldr_eq_foldr_toList]
  induction table.toList with
  | nil => rfl
  | cons entry rest inductionHypothesis => rw [List.foldr_cons, inductionHypothesis, List.map_cons]

section Lists

variable {table : Table (List α)}

/-- An entry of a table is found under its name. -/
theorem getD_of_mem_toList {name : String} {values : List α}
    (listed : (name, values) ∈ table.toList) :
    table.getD name [] = values := by
  rw [Std.ExtTreeMap.getD_eq_getD_getElem?,
    Std.ExtTreeMap.mem_toList_iff_getElem?_eq_some.mp listed, Option.getD_some]

/-- What is in one of the lists of a table. -/
theorem mem_flatten_values {value : α} :
    value ∈ table.values.flatten ↔ ∃ name, value ∈ table.getD name [] := by
  simp only [values_eq, List.mem_flatten, List.mem_map]
  constructor
  · rintro ⟨_, ⟨⟨name, values⟩, listed, rfl⟩, member⟩
    exact ⟨name, (getD_of_mem_toList listed).symm ▸ member⟩
  · rintro ⟨name, member⟩
    rw [Std.ExtTreeMap.getD_eq_getD_getElem?] at member
    cases found : table[name]? with
    | none => simp [found] at member
    | some values =>
      rw [found, Option.getD_some] at member
      exact ⟨values, ⟨_, Std.ExtTreeMap.mem_toList_iff_getElem?_eq_some.mpr found, rfl⟩, member⟩

/-- Lists without repetition that share nothing make a list without repetition. -/
theorem nodup_flatten_values (each : ∀ name, (table.getD name []).Nodup)
    (apart : ∀ left right, left ≠ right → (table.getD left []).Disjoint (table.getD right [])) :
    table.values.flatten.Nodup := by
  rw [values_eq, List.nodup_flatten]
  constructor
  · intro values listed
    obtain ⟨⟨name, _⟩, entry, rfl⟩ := List.mem_map.mp listed
    exact getD_of_mem_toList entry ▸ each name
  · rw [List.pairwise_map]
    refine Std.ExtTreeMap.distinct_keys_toList.imp_of_mem ?_
    rintro ⟨left, _⟩ ⟨right, _⟩ leftListed rightListed different
    rw [Std.LawfulEqCmp.compare_eq_iff_eq] at different
    have disjoint := apart left right different
    rw [getD_of_mem_toList leftListed, getD_of_mem_toList rightListed] at disjoint
    exact disjoint

end Lists

/-- A value that there was has been changed when all changes succeeded. -/
theorem getElem?_updateAll {table after : Table α} {change : α → Except ε α}
    (run : table.updateAll change = .ok after) {name : String} {value : α}
    (found : table[name]? = some value) :
    ∃ changed, change value = .ok changed ∧ after[name]? = some changed := by
  let motive (done : List (String × α)) (current : Table α) : Prop :=
    ∀ name value, (name, value) ∈ done →
      ∃ changed, change value = .ok changed ∧ current[name]? = some changed
  have all : motive table.toList after := by
    refine Outcome.foldlM_induction (motive := motive) run (fun _ _ none => nomatch none) ?_
    intro done entry current next start holds step name value listed
    obtain ⟨changed, run, same⟩ := Outcome.bind_eq_ok.mp step
    cases same
    rcases List.mem_append.mp listed with old | last
    · obtain ⟨earlier, earlierRun, kept⟩ := holds name value old
      -- No name occurs twice in the list of a table.
      have distinct := (List.pairwise_append.mp
        (Std.ExtTreeMap.distinct_keys_toList.sublist start.sublist)).2.2
      have different : entry.1 ≠ name := by
        intro same
        apply distinct _ old entry (List.mem_singleton_self entry)
        simp [same]
      refine ⟨earlier, earlierRun, ?_⟩
      rw [getElem?_insert, if_neg different]
      exact kept
    · cases List.mem_singleton.mp last
      refine ⟨changed, run, ?_⟩
      rw [getElem?_insert, if_pos rfl]
  exact all name value (Std.ExtTreeMap.mem_toList_iff_getElem?_eq_some.mpr found)

/-- Changing all values succeeds when it does so for each, and what holds of all values
before and of every changed value holds of all values after. -/
theorem exists_updateAll {table : Table α} {change : α → Except ε α} {good : α → Prop}
    (each : ∀ value, good value → ∃ changed, change value = .ok changed ∧ good changed)
    (all : ∀ (name : String) value, table[name]? = some value → good value) :
    ∃ after, table.updateAll change = .ok after ∧
      ∀ (name : String) value, after[name]? = some value → good value := by
  let motive (_ : List (String × α)) (current : Table α) : Prop :=
    ∀ (name : String) value, current[name]? = some value → good value
  refine Outcome.exists_foldlM_induction (motive := motive) all ?_
  intro done entry current start holds
  have found := Std.ExtTreeMap.mem_toList_iff_getElem?_eq_some.mp
    (Outcome.mem_of_concat_prefix start)
  obtain ⟨changed, run, better⟩ := each entry.2 (all entry.1 entry.2 found)
  refine ⟨current.insert entry.1 changed, Outcome.bind_eq_ok.mpr ⟨changed, run, rfl⟩, ?_⟩
  intro name value look
  rw [getElem?_insert] at look
  split at look
  · cases look
    exact better
  · exact holds name value look

end TopoPlan.Table

namespace TopoPlan.NameSet

/-- The names of a set after some were added. -/
theorem mem_addAll {names : NameSet} {more : List String} {name : String} :
    name ∈ names.addAll more ↔ name ∈ names ∨ name ∈ more := by
  unfold addAll
  induction more generalizing names with
  | nil => simp
  | cons first rest inductionHypothesis =>
    simp only [List.foldl_cons, inductionHypothesis, Std.ExtTreeSet.mem_insert,
      Std.LawfulEqCmp.compare_eq_iff_eq, List.mem_cons, eq_comm (a := first)]
    tauto

/-- A set lists each name once. -/
theorem nodup_toList (names : NameSet) : names.toList.Nodup :=
  names.distinct_toList.imp fun different same =>
    different (Std.LawfulEqCmp.compare_eq_iff_eq.mpr same)

end TopoPlan.NameSet
