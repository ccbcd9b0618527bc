import Mathlib.Algebra.Ring.Nat
import Mathlib.Tactic.IntervalCases
import TopoPlan.Address.Subnet

/-!
# Numerals and their digits

The numeral of a number is the text of its digits, and every reader of digits
gives the number back: readers of address parts, which leave what follows the
digits, and the reader of a prefix length, which leaves nothing.
-/

namespace TopoPlan

namespace Numeral

/-- The digits that a number is written with, the highest first. -/
structure Spells (base value : Nat) (digits : List Nat) : Prop where
  written : Nat.toDigits base value = digits.map Nat.digitChar
  below : ∀ digit ∈ digits, digit < base
  valued : Address.ofDigits base digits = value
  /-- A number of several digits does not start with zero. -/
  leading : digits.head? = some 0 → digits.length = 1

/-- A digit is read as what it was written for. -/
theorem digit?_digitChar (base : Nat) (small : base ≤ 16) {digit : Nat} (below : digit < base) :
    digit? base (Nat.digitChar digit) = some digit := by
  have inside : digit < 16 := Nat.lt_of_lt_of_le below small
  have value : digit? 16 (Nat.digitChar digit) = some digit := by
    interval_cases digit <;> decide
  unfold digit? at value ⊢
  simp only [Option.filter_eq_some_iff] at value ⊢
  exact ⟨value.1, by simpa using below⟩

/-- The last digit counts least. -/
theorem ofDigits_append (base : Nat) (left : List Nat) (digit : Nat) :
    Address.ofDigits base (left ++ [digit]) = Address.ofDigits base left * base + digit := by
  simp [Address.ofDigits]

namespace Spells

variable {base value : Nat} {digits : List Nat}

/-- Every number has a digit. -/
theorem ne_nil (spells : Spells base value digits) : digits ≠ [] := by
  intro empty
  have written := spells.written
  rw [empty, List.map_nil] at written
  exact Nat.toDigits_ne_nil written

/-- A number below a power of the base has at most as many digits as the exponent. -/
theorem length_le (spells : Spells base value digits) (several : 1 < base) {count : Nat}
    (positive : 0 < count) (bound : value < base ^ count) : digits.length ≤ count := by
  have length := (Nat.length_toDigits_le_iff several positive).mpr bound
  rwa [spells.written, List.length_map] at length

/-- Only zero starts with the digit zero. -/
theorem head_ne_zero (spells : Spells base value digits) (positive : 0 < value) :
    digits.head? ≠ some 0 := by
  intro zero
  obtain ⟨digit, single⟩ := List.length_eq_one_iff.mp (spells.leading zero)
  have valued := spells.valued
  rw [single] at zero valued
  simp [Address.ofDigits] at zero valued
  omega

/-- A number of one digit. -/
theorem single (small : value < base) : Spells base value [value] where
  written := by simp [Nat.toDigits_of_lt_base small]
  below := by simpa using small
  valued := by simp [Address.ofDigits]
  leading := by simp

/-- A number of several digits is its quotient, followed by its last digit. -/
theorem snoc (several : 1 < base) (large : base ≤ value)
    (spells : Spells base (value / base) digits) :
    Spells base value (digits ++ [value % base]) where
  written := by
    rw [Nat.toDigits_of_base_le several large, spells.written]
    simp
  below := by
    refine List.forall_mem_append.mpr ⟨spells.below, List.forall_mem_singleton.mpr ?_⟩
    exact Nat.mod_lt value (by omega)
  valued := by rw [ofDigits_append, spells.valued, Nat.div_add_mod']
  leading := by
    intro zero
    have division : 0 < value / base := Nat.div_pos large (by omega)
    obtain ⟨first, rest, rfl⟩ := List.exists_cons_of_ne_nil spells.ne_nil
    exact absurd zero (spells.head_ne_zero division)

end Spells

/-- Every number has digits. -/
theorem exists_spells (base : Nat) (several : 1 < base) (value : Nat) :
    ∃ digits, Spells base value digits := by
  induction value using Nat.strongRecOn with
  | ind value inductionHypothesis =>
    by_cases small : value < base
    · exact ⟨[value], .single small⟩
    · have large : base ≤ value := Nat.le_of_not_lt small
      obtain ⟨digits, spells⟩ :=
        inductionHypothesis (value / base) (Nat.div_lt_self (by omega) several)
      exact ⟨digits ++ [value % base], spells.snoc several large⟩

/-- Written digits are hexadecimal digits. -/
theorem exists_digit_of_mem_toDigits {base value : Nat} (several : 1 < base) (small : base ≤ 16)
    {character : Char} (member : character ∈ Nat.toDigits base value) :
    ∃ digit < 16, Nat.digitChar digit = character := by
  obtain ⟨digits, spells⟩ := exists_spells base several value
  rw [spells.written, List.mem_map] at member
  obtain ⟨digit, member, same⟩ := member
  exact ⟨digit, Nat.lt_of_lt_of_le (spells.below digit member) small, same⟩

/-- A text that no digit continues. -/
def Stops (base : Nat) (rest : List Char) : Prop :=
  ∀ character ∈ rest.head?, digit? base character = none

/-- A number ends where the text ends. -/
theorem stops_nil (base : Nat) : Stops base [] := by
  intro character member
  simp at member

/-- A number ends before a character that is no digit. -/
theorem stops_cons (base : Nat) (character : Char) (rest : List Char)
    (noDigit : digit? base character = none) : Stops base (character :: rest) := by
  intro other member
  have same : character = other := by simpa using member
  rwa [← same]

/-- The number grows while digits are read. -/
theorem le_foldl_digits (base : Nat) (positive : 0 < base) (digits : List Nat) (value : Nat) :
    value ≤ digits.foldl (fun value digit => value * base + digit) value := by
  induction digits generalizing value with
  | nil => exact Nat.le_refl value
  | cons digit rest inductionHypothesis =>
    calc
      value ≤ value * base := Nat.le_mul_of_pos_right value positive
      _ ≤ value * base + digit := Nat.le_add_right _ _
      _ ≤ _ := inductionHypothesis (value * base + digit)

/-- Digits are read in one go as long as their number stays below the limit. -/
theorem extend_digits (base limit : Nat) (positive : 0 < base) (small : base ≤ 16)
    (digits : List Nat) (value : Nat) (below : ∀ digit ∈ digits, digit < base)
    (bound : digits.foldl (fun value digit => value * base + digit) value < limit) :
    extend base limit value (digits.map Nat.digitChar) =
      .ok (digits.foldl (fun value digit => value * base + digit) value) := by
  induction digits generalizing value with
  | nil => rfl
  | cons digit rest inductionHypothesis =>
    have here := digit?_digitChar base small (below digit (by simp))
    have next : value * base + digit < limit :=
      Nat.lt_of_le_of_lt (le_foldl_digits base positive rest (value * base + digit)) bound
    simp only [List.map_cons, extend, here, next, if_true]
    apply inductionHypothesis
    · intro other member
      exact below other (List.mem_cons_of_mem digit member)
    · exact bound

/-- A decimal numeral below the limit is read as its number. -/
theorem read_text (limit value : Nat) (bound : value < limit) :
    read 10 limit (text value).toList = .ok value := by
  obtain ⟨digits, spells⟩ := exists_spells 10 (by omega) value
  have number : digits.foldl (fun value digit => value * 10 + digit) 0 = value := spells.valued
  have extended := extend_digits 10 limit (by omega) (by omega) digits 0 spells.below
    (by rwa [number])
  rw [number] at extended
  unfold text
  rw [String.toList_ofList, spells.written]
  match digits, spells, extended with
  | [], spells, _ => exact absurd rfl spells.ne_nil
  | first :: rest, spells, extended =>
    -- The first character is a digit, so the optional sign is absent.
    have noSign : Nat.digitChar first ≠ '+' := by
      intro sign
      have digit := digit?_digitChar 10 (by omega) (spells.below first (by simp))
      rw [sign] at digit
      simp [digit?] at digit
    rw [List.map_cons] at extended ⊢
    rw [read.eq_def]
    split
    · rename_i empty
      simp at empty
    · rename_i sign
      simp only [List.cons.injEq] at sign
      exact absurd sign.1 noSign
    · rename_i sign
      simp only [List.cons.injEq] at sign
      exact absurd sign.1 noSign
    · exact extended

/-- Different numbers have different numerals. -/
theorem text_inj {left right : Nat} (same : text left = text right) : left = right := by
  have leftRead := read_text (max left right + 1) left (by omega)
  rw [same, read_text (max left right + 1) right (by omega)] at leftRead
  cases leftRead
  rfl

end Numeral

namespace Address

open Numeral

/-- All the digits at the start of a text are taken, and what stops them stays. -/
theorem takeDigits_append (base : Nat) (small : base ≤ 16) (digits : List Nat)
    (below : ∀ digit ∈ digits, digit < base) (rest : List Char) (stops : Stops base rest) :
    takeDigits base (digits.map Nat.digitChar ++ rest) = (digits, rest) := by
  induction digits with
  | nil =>
    cases rest with
    | nil => rfl
    | cons character rest =>
      have noDigit := stops character (by simp)
      simp [takeDigits, noDigit]
  | cons digit digits inductionHypothesis =>
    have here := digit?_digitChar base small (below digit (by simp))
    have following := inductionHypothesis fun other member =>
      below other (List.mem_cons_of_mem digit member)
    simp [takeDigits, here, following]

/-- A number of eight bits is read back where it stops. -/
theorem readOctet_append (value : Nat) (bound : value < 256) (rest : List Char)
    (stops : Stops 10 rest) :
    readOctet (Nat.toDigits 10 value ++ rest) = some (value, rest) := by
  obtain ⟨digits, spells⟩ := exists_spells 10 (by omega) value
  have taken := takeDigits_append 10 (by omega) digits spells.below rest stops
  have length : digits.length ≤ 3 := spells.length_le (by omega) (by omega) (by omega)
  have leading : digits.head? = some 0 → digits.length ≤ 1 := fun zero =>
    Nat.le_of_eq (spells.leading zero)
  unfold readOctet
  rw [spells.written, taken]
  simp only [spells.valued]
  rw [if_neg]
  simpa [spells.ne_nil, length, Nat.le_of_lt_succ bound] using leading

/-- A group of sixteen bits is read back where it stops. -/
theorem readGroup_append (group : Nat) (bound : group < 65536) (rest : List Char)
    (stops : Stops 16 rest) :
    readGroup (Nat.toDigits 16 group ++ rest) = some (group, rest) := by
  obtain ⟨digits, spells⟩ := exists_spells 16 (by omega) group
  have taken := takeDigits_append 16 (by omega) digits spells.below rest stops
  have length : digits.length ≤ 4 := spells.length_le (by omega) (by omega) (by omega)
  unfold readGroup
  rw [spells.written, taken]
  simp only [spells.valued]
  rw [if_neg]
  simp [spells.ne_nil, length]

end Address

end TopoPlan
