import Mathlib.Data.Nat.Digits.Lemmas
import TopoPlan.Address.Bytes

/-!
# Arithmetic on bytes

Addition and subtraction go through the bytes from the least significant one and carry one
number along.  What is invariant is the value: that of the bytes written so far together with
the carry in its place.  So both are exact on the numbers that the bytes stand for, which is
what `add_ofAddress` and `difference?_ofAddress` say of addresses.
-/

namespace TopoPlan.Bytes

variable {left right bytes : List UInt8}

/-- The value of bytes listed from the least significant one. -/
def valueReversed (bytes : List UInt8) : Nat := Nat.ofDigits 256 (bytes.map UInt8.toNat)

/-- The first byte of reversed ones counts least. -/
theorem valueReversed_cons (byte : UInt8) (rest : List UInt8) :
    valueReversed (byte :: rest) = byte.toNat + 256 * valueReversed rest :=
  Nat.ofDigits_cons

/-- Bytes and reversed bytes are one number, read from different ends. -/
theorem valueReversed_reverse (bytes : List UInt8) :
    valueReversed bytes.reverse = toNat bytes := by
  rw [valueReversed, Nat.ofDigits_eq_foldr, List.map_reverse, List.foldr_reverse,
    List.foldl_map, toNat]
  congr 1
  funext value byte
  simp only [Nat.cast_id]
  omega

theorem toNat_reverse (bytes : List UInt8) : toNat bytes.reverse = valueReversed bytes := by
  rw [← valueReversed_reverse, List.reverse_reverse]

/-- Bytes are digits to the base 256. -/
theorem digit_lt (bytes : List UInt8) : ∀ digit ∈ bytes.map UInt8.toNat, digit < 256 := by
  intro digit listed
  obtain ⟨byte, _, rfl⟩ := List.mem_map.mp listed
  exact byte.toNat_lt

/-- So many reversed bytes hold a number below a power of 256. -/
theorem valueReversed_lt (bytes : List UInt8) : valueReversed bytes < 256 ^ bytes.length := by
  have bound := Nat.ofDigits_lt_base_pow_length (by decide : 1 < 256) (digit_lt bytes)
  rwa [List.length_map] at bound

/-- So many bytes hold a number below a power of 256. -/
theorem toNat_lt (bytes : List UInt8) : toNat bytes < 256 ^ bytes.length := by
  rw [← valueReversed_reverse, ← List.length_reverse]
  exact valueReversed_lt _

/-- Byte strings of one length are told apart by their values. -/
theorem eq_of_toNat_eq (lengths : left.length = right.length) (same : toNat left = toNat right) :
    left = right := by
  rw [← valueReversed_reverse, ← valueReversed_reverse] at same
  have digits : left.reverse.map UInt8.toNat = right.reverse.map UInt8.toNat :=
    Nat.ofDigits_inj_of_len_eq (by decide : 1 < 256) (by simpa using lengths)
      (digit_lt _) (digit_lt _) same
  exact List.reverse_injective (List.map_injective_iff.mpr (fun _ _ => UInt8.toNat.inj) digits)

/-! ## Addition -/

/-- An addition keeps the number of reversed bytes. -/
theorem length_addReversed (bytes : List UInt8) (offset : Nat) :
    (addReversed bytes offset).1.length = bytes.length := by
  induction bytes generalizing offset with
  | nil => rfl
  | cons byte rest inductionHypothesis =>
    simp only [addReversed, List.length_cons, inductionHypothesis]

/-- Nothing is lost in an addition: what does not fit is left over. -/
theorem addReversed_value (bytes : List UInt8) (offset : Nat) :
    valueReversed (addReversed bytes offset).1 +
        256 ^ bytes.length * (addReversed bytes offset).2 =
      valueReversed bytes + offset := by
  induction bytes generalizing offset with
  | nil => simp [addReversed, valueReversed]
  | cons byte rest inductionHypothesis =>
    have later := inductionHypothesis (offset / 256 + (byte.toNat + offset % 256) / 256)
    have digit : (UInt8.ofNat ((byte.toNat + offset % 256) % 256)).toNat =
        (byte.toNat + offset % 256) % 256 := by simp
    simp only [addReversed, valueReversed_cons, List.length_cons, Nat.pow_succ', digit,
      Nat.mul_assoc]
    omega

/-- An addition keeps the number of bytes. -/
theorem length_add (bytes : List UInt8) (offset : Nat) :
    (add bytes offset).1.length = bytes.length := by
  simp only [add, List.length_reverse, length_addReversed]

/-- The sum, reduced to the bytes that there are, and how often it does not fit. -/
theorem add_parts (bytes : List UInt8) (offset : Nat) :
    ∃ excess, toNat (add bytes offset).1 + 256 ^ bytes.length * excess =
        toNat bytes + offset ∧ (add bytes offset).2 = (excess == 0) := by
  have value := addReversed_value bytes.reverse offset
  rw [valueReversed_reverse, List.length_reverse] at value
  exact ⟨_, by rw [← value, add, toNat_reverse], rfl⟩

/-- The sum of bytes and a number, reduced to as many bytes. -/
theorem toNat_add (bytes : List UInt8) (offset : Nat) :
    toNat (add bytes offset).1 = (toNat bytes + offset) % 256 ^ bytes.length := by
  obtain ⟨excess, value, _⟩ := add_parts bytes offset
  have bound := toNat_lt (add bytes offset).1
  rw [length_add] at bound
  rw [← value, Nat.add_mul_mod_self_left, Nat.mod_eq_of_lt bound]

/-- An addition tells whether the sum fits. -/
theorem add_fits_iff (bytes : List UInt8) (offset : Nat) :
    (add bytes offset).2 = true ↔ toNat bytes + offset < 256 ^ bytes.length := by
  obtain ⟨excess, value, fits⟩ := add_parts bytes offset
  have bound := toNat_lt (add bytes offset).1
  rw [length_add] at bound
  rw [fits, beq_iff_eq, ← value]
  constructor
  · rintro rfl
    simpa using bound
  · intro below
    by_contra some
    have := Nat.le_mul_of_pos_right (256 ^ bytes.length) (Nat.pos_of_ne_zero some)
    omega

/-! ## Subtraction -/

/-- Nothing is lost in a subtraction: what is missing is borrowed from behind the last byte.
Only one can be borrowed there. -/
theorem subtractReversed_value (lengths : left.length = right.length) {borrow : Nat}
    (single : borrow ≤ 1) :
    (subtractReversed left right borrow).1.length = left.length ∧
      (subtractReversed left right borrow).2 ≤ 1 ∧
      valueReversed (subtractReversed left right borrow).1 + valueReversed right + borrow =
        valueReversed left + 256 ^ left.length * (subtractReversed left right borrow).2 := by
  induction left generalizing right borrow with
  | nil =>
    cases List.length_eq_zero_iff.mp lengths.symm
    exact ⟨rfl, single, by simp [subtractReversed, valueReversed]⟩
  | cons first lefts inductionHypothesis =>
    obtain ⟨second, rights, rfl⟩ := List.exists_cons_of_length_eq_add_one lengths.symm
    have firstBound := first.toNat_lt
    have secondBound := second.toNat_lt
    have rest : lefts.length = rights.length := Nat.succ.inj lengths
    by_cases fits : second.toNat + borrow ≤ first.toNat
    case pos =>
      rw [subtractReversed, if_pos fits]
      obtain ⟨length, last, value⟩ := inductionHypothesis rest (Nat.zero_le 1)
      have digit : first.toNat - (second.toNat + borrow) < 256 := by omega
      refine ⟨congrArg Nat.succ length, last, ?_⟩
      simp only [valueReversed_cons, List.length_cons, Nat.pow_succ', Nat.mul_assoc,
        UInt8.toNat_ofNat_of_lt' digit]
      omega
    case neg =>
      rw [subtractReversed, if_neg fits]
      obtain ⟨length, last, value⟩ := inductionHypothesis rest (Nat.le_refl 1)
      have digit : first.toNat + 256 - (second.toNat + borrow) < 256 := by omega
      refine ⟨congrArg Nat.succ length, last, ?_⟩
      simp only [valueReversed_cons, List.length_cons, Nat.pow_succ', Nat.mul_assoc,
        UInt8.toNat_ofNat_of_lt' digit]
      omega

/-- The difference of byte strings of one length is the one of their values. -/
theorem difference?_eq (lengths : left.length = right.length) (short : left.length ≤ 16) :
    difference? left right =
      if toNat right ≤ toNat left then some (toNat left - toNat right) else none := by
  have reversedLengths : left.reverse.length = right.reverse.length := by simpa using lengths
  obtain ⟨length, single, value⟩ := subtractReversed_value reversedLengths (Nat.zero_le 1)
  have bound := valueReversed_lt (subtractReversed left.reverse right.reverse 0).1
  rw [length, List.length_reverse] at bound
  rw [valueReversed_reverse, valueReversed_reverse, List.length_reverse] at value
  have leftBound := toNat_lt left
  have rightBound := toNat_lt right
  rw [← lengths] at rightBound
  have shape : (left.length != right.length || decide (16 < left.length)) = false := by
    rw [lengths, bne_self_eq_false, ← lengths, Bool.false_or]
    exact decide_eq_false (Nat.not_lt.mpr short)
  rw [difference?, shape, if_neg Bool.false_ne_true]
  simp only [toNat_reverse]
  split
  case isTrue none =>
    rw [none] at value
    rw [if_pos (by omega)]
    exact congrArg some (by omega)
  case isFalse borrowed =>
    have one : (subtractReversed left.reverse right.reverse 0).2 = 1 := by omega
    rw [one] at value
    rw [if_neg (by omega)]

/-! ## Bytes of addresses -/

theorem length_ofNat (count value : Nat) : (ofNat count value).length = count := by
  induction count generalizing value with
  | zero => rfl
  | succ count inductionHypothesis =>
    rw [ofNat, List.length_append, inductionHypothesis, List.length_singleton]

/-- The bytes of a number stand for this number, reduced to as many bytes. -/
theorem toNat_ofNat (count value : Nat) : toNat (ofNat count value) = value % 256 ^ count := by
  induction count generalizing value with
  | zero => simp [ofNat, toNat, Nat.mod_one]
  | succ count inductionHypothesis =>
    have digit : (UInt8.ofNat (value % 256)).toNat = value % 256 :=
      UInt8.toNat_ofNat_of_lt' (Nat.mod_lt _ (by decide))
    have rest := inductionHypothesis (value / 256)
    unfold toNat at rest ⊢
    rw [ofNat, List.foldl_append, rest, List.foldl_cons, List.foldl_nil, digit, Nat.pow_succ',
      Nat.mod_mul]
    omega

/-- An address has as many bytes as its family is wide. -/
theorem length_ofAddress (address : Address) :
    (ofAddress address).length = address.family.width / 8 :=
  length_ofNat _ _

/-- The bytes of an address hold exactly the numbers of its width. -/
theorem pow_bytes (family : Family) : 256 ^ (family.width / 8) = Nat.pow 2 family.width := by
  cases family <;> decide

/-- The bytes of an address stand for its number. -/
theorem toNat_ofAddress (address : Address) : toNat (ofAddress address) = address.value := by
  rw [ofAddress, toNat_ofNat, pow_bytes, Nat.mod_eq_of_lt address.value_lt]

variable {low high : Address}

/-- On bytes, adding a distance to an address gives the address at this distance. -/
theorem add_ofAddress {offset : Nat} (families : high.family = low.family)
    (ahead : high.value = low.value + offset) :
    add (ofAddress low) offset = (ofAddress high, true) := by
  have bound : low.value + offset < 256 ^ (low.family.width / 8) := by
    rw [← ahead, ← families, pow_bytes]
    exact high.value_lt
  have lengths : (ofAddress high).length = (add (ofAddress low) offset).1.length := by
    rw [length_add, length_ofAddress, length_ofAddress, families]
  have value : toNat (ofAddress high) = toNat (add (ofAddress low) offset).1 := by
    rw [toNat_add, toNat_ofAddress, toNat_ofAddress, length_ofAddress, ahead,
      Nat.mod_eq_of_lt bound]
  apply Prod.ext (eq_of_toNat_eq lengths value).symm
  rw [add_fits_iff, toNat_ofAddress, length_ofAddress]
  exact bound

/-- On bytes, subtracting an address from one that is not before it gives their distance. -/
theorem difference?_ofAddress (families : high.family = low.family)
    (ahead : low.value ≤ high.value) :
    difference? (ofAddress high) (ofAddress low) = some (high.value - low.value) := by
  have lengths : (ofAddress high).length = (ofAddress low).length := by
    rw [length_ofAddress, length_ofAddress, families]
  have short : (ofAddress high).length ≤ 16 := by
    rw [length_ofAddress]
    cases high.family <;> decide
  rw [difference?_eq lengths short, toNat_ofAddress, toNat_ofAddress, if_pos ahead]

end TopoPlan.Bytes
