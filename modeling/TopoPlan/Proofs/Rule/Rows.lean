import TopoPlan.Proofs.Text.Tables
import TopoPlan.Rule.Row

/-!
# Fields of rows

What is found under the name of a field after rows were numbered, or were given derived
fields.
-/

namespace TopoPlan.Row

variable {row : Row} {rows : List Row} {field : String}

/-- The position replaces a field of that name. -/
theorem getElem?_indexed {index : Nat} :
    (indexed index row)[field]? =
      if indexField = field then some (Numeral.text index) else row[field]? :=
  Table.getElem?_insert row indexField field _

theorem length_number : (number rows).length = rows.length := by
  rw [number, List.length_map, List.length_zipIdx]

/-- A row is numbered with its position. -/
theorem getElem?_number {position : Nat} :
    (number rows)[position]? = rows[position]?.map (indexed position) := by
  rw [number, List.getElem?_map, List.getElem?_zipIdx, Option.map_map, Nat.zero_add]
  rfl

/-! ## Positions -/

/-- Every row holds its position. -/
def Numbered (rows : List Row) : Prop :=
  ∀ (index : Nat) (row : Row), rows[index]? = some row →
    row[indexField]? = some (Numeral.text index)

/-- A numbered row holds its number, whatever it held before. -/
theorem getElem?_indexField {index : Nat} :
    (indexed index row)[indexField]? = some (Numeral.text index) :=
  getElem?_indexed.trans (if_pos rfl)

theorem numbered_nil : Numbered [] := fun _ _ found => nomatch found

/-- Rows that are numbered carry their numbers. -/
theorem numbered_number (rows : List Row) : Numbered (number rows) := by
  intro index row found
  rw [getElem?_number] at found
  obtain ⟨before, _, rfl⟩ := Option.map_eq_some_iff.mp found
  exact getElem?_indexField

/-- Rows with one value for each number. -/
theorem numbered_range (value : Nat → String) (count : Nat) :
    Numbered ((List.range count).map fun index => single (value index) index) := by
  intro index row found
  rw [List.getElem?_map] at found
  obtain ⟨position, listed, rfl⟩ := Option.map_eq_some_iff.mp found
  obtain ⟨_, rfl⟩ := List.getElem?_eq_some_iff.mp listed
  rw [List.getElem_range]
  exact getElem?_indexField

/-! ## Derived fields -/

/-- Every derived field is set once. -/
theorem nodup_derived (formats : Table String) (row : Row) :
    ((formats.toList.map fun entry => (entry.1, row.expand entry.2)).map Prod.fst).Nodup := by
  rw [List.map_map]
  refine List.pairwise_map.mpr (Std.ExtTreeMap.distinct_keys_toList.imp ?_)
  intro left right distinct same
  exact distinct (Std.LawfulEqCmp.compare_eq_iff_eq.mpr same)

/-- Derived fields replace those of the same names. -/
theorem getElem?_derive {formats : Table String} :
    (derive formats row)[field]? = (formats[field]?.map row.expand).or row[field]? := by
  cases found : formats[field]? with
  | some template =>
    have listed : (field, template) ∈ formats.toList :=
      Std.ExtTreeMap.mem_toList_iff_getElem?_eq_some.mpr found
    exact Table.getElem?_setAll_of_mem (nodup_derived formats row)
      (List.mem_map_of_mem (f := fun entry => (entry.1, row.expand entry.2)) listed)
  | none =>
    refine Table.getElem?_setAll_of_not_mem fun listed => ?_
    rw [List.map_map] at listed
    obtain ⟨⟨_, template⟩, entry, rfl⟩ := List.mem_map.mp listed
    cases found.symm.trans (Std.ExtTreeMap.mem_toList_iff_getElem?_eq_some.mp entry)

/-- Derived fields of other names leave the positions alone. -/
theorem Numbered.derive {formats : Table String} (numbered : Numbered rows)
    (other : indexField ∉ formats) : Numbered (rows.map (derive formats)) := by
  intro index row found
  rw [List.getElem?_map] at found
  obtain ⟨before, listed, rfl⟩ := Option.map_eq_some_iff.mp found
  rw [getElem?_derive, Std.ExtTreeMap.getElem?_eq_none other]
  exact numbered index before listed

end TopoPlan.Row
