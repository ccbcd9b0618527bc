import TopoPlan.Proofs.Address.ByteArithmetic

/-!
# Bits of byte strings

Bits are counted from the most significant one of the first byte.  Clearing or setting all bits
from a position on goes bit by bit through the bytes, and `toNat_mask` and `toNat_fill` say what
this does to the number that the bytes stand for: it is rounded down to a multiple of a power of
two, or the remainder is made as large as it can be.
-/

namespace TopoPlan.Bytes

variable {bytes : List UInt8} {position : Nat}

/-- A byte with a single bit set, counted from the most significant one. -/
def singleBit (position : Nat) : UInt8 := 0x80 >>> UInt8.ofNat position

/-- Clear the bit at a position. -/
def clearBit (bytes : List UInt8) (position : Nat) : List UInt8 :=
  bytes.modify (position / 8) fun byte => byte &&& ~~~ singleBit (position % 8)

/-- Set the bit at a position. -/
def setBit (bytes : List UInt8) (position : Nat) : List UInt8 :=
  bytes.modify (position / 8) fun byte => byte ||| singleBit (position % 8)

/-- The positions of bits from a given one on. -/
def positionsFrom (bytes : List UInt8) (length : Nat) : List Nat :=
  List.range' length (8 * bytes.length - length)

/-- Clear all bits but the first ones. -/
def mask (bytes : List UInt8) (length : Nat) : List UInt8 :=
  (positionsFrom bytes length).foldl clearBit bytes

/-- Set all bits but the first ones. -/
def fill (bytes : List UInt8) (length : Nat) : List UInt8 :=
  (positionsFrom bytes length).foldl setBit bytes

/-- The bit at a position. -/
def bitAt (bytes : List UInt8) (position : Nat) : Bool :=
  (bytes.getD (position / 8) 0).toNat.testBit (7 - position % 8)

/-! ## Bits of numbers -/

/-- The first byte counts most. -/
theorem toNat_cons (byte : UInt8) (rest : List UInt8) :
    toNat (byte :: rest) = 2 ^ (8 * rest.length) * byte.toNat + toNat rest := by
  have single : valueReversed [byte] = byte.toNat := by
    rw [valueReversed, List.map_singleton, Nat.ofDigits_singleton]
  rw [← valueReversed_reverse, ← valueReversed_reverse, List.reverse_cons, ← single]
  unfold valueReversed
  rw [List.map_append, Nat.ofDigits_append, List.length_map, List.length_reverse, Nat.pow_mul,
    Nat.add_comm]

/-- The bits of a number in the order of the bytes that stand for it. -/
theorem testBit_toNat (inside : position < 8 * bytes.length) :
    (toNat bytes).testBit (8 * bytes.length - 1 - position) = bitAt bytes position := by
  induction bytes generalizing position with
  | nil => exact absurd inside (Nat.not_lt_zero _)
  | cons byte rest inductionHypothesis =>
    have below : toNat rest < 2 ^ (8 * rest.length) := by
      rw [Nat.pow_mul]
      exact toNat_lt rest
    rw [List.length_cons] at inside ⊢
    rw [toNat_cons, Nat.testBit_two_pow_mul_add _ below]
    rcases Nat.lt_or_ge position 8 with here | later
    · have place : 8 * (rest.length + 1) - 1 - position - 8 * rest.length = 7 - position := by omega
      rw [if_neg (by omega), place, bitAt, Nat.div_eq_of_lt here, Nat.mod_eq_of_lt here]
      rfl
    · have place : 8 * (rest.length + 1) - 1 - position = 8 * rest.length - 1 - (position - 8) := by
        omega
      have byteBefore : position / 8 = (position - 8) / 8 + 1 := by omega
      have sameBit : position % 8 = (position - 8) % 8 := by omega
      rw [if_pos (by omega), place, inductionHypothesis (by omega), bitAt, bitAt, byteBefore,
        sameBit, List.getD_cons_succ]

/-- Bytes that have the bits of a number stand for it. -/
theorem toNat_eq_of_bits {value : Nat} (bound : value < 2 ^ (8 * bytes.length))
    (bits : ∀ position < 8 * bytes.length,
      bitAt bytes position = value.testBit (8 * bytes.length - 1 - position)) :
    toNat bytes = value := by
  have below : toNat bytes < 2 ^ (8 * bytes.length) := by
    rw [Nat.pow_mul]
    exact toNat_lt bytes
  refine Nat.eq_of_testBit_eq fun index => ?_
  rcases Nat.lt_or_ge index (8 * bytes.length) with inside | outside
  · have place : 8 * bytes.length - 1 - (8 * bytes.length - 1 - index) = index := by omega
    have same := bits (8 * bytes.length - 1 - index) (by omega)
    rw [← testBit_toNat (by omega), place] at same
    exact same
  · have large : 2 ^ (8 * bytes.length) ≤ 2 ^ index := Nat.pow_le_pow_right (by decide) outside
    rw [Nat.testBit_lt_two_pow (below.trans_le large),
      Nat.testBit_lt_two_pow (bound.trans_le large)]

/-! ## Single bits -/

/-- A change of bytes gives a bit the value and leaves the others alone. -/
structure Writes (value : Bool) (change : List UInt8 → Nat → List UInt8) : Prop where
  length : ∀ bytes position, (change bytes position).length = bytes.length
  bit : ∀ bytes position, position < 8 * bytes.length → ∀ other,
    bitAt (change bytes position) other = if other = position then value else bitAt bytes other

/-- A byte with a single bit has no other. -/
theorem testBit_singleBit (position other : Nat) :
    (singleBit (position % 8)).toNat.testBit (7 - other % 8) =
      decide (other % 8 = position % 8) := by
  have each : ∀ left right : Fin 8,
      (singleBit left).toNat.testBit (7 - right) = decide (right.val = left.val) := by decide
  exact each ⟨position % 8, Nat.mod_lt _ (by decide)⟩ ⟨other % 8, Nat.mod_lt _ (by decide)⟩

/-- The bits of bytes of which one has been changed. -/
theorem bitAt_modify (change : UInt8 → UInt8) (inside : position < 8 * bytes.length)
    (other : Nat) :
    bitAt (bytes.modify (position / 8) change) other =
      if other / 8 = position / 8 then
        (change (bytes.getD (position / 8) 0)).toNat.testBit (7 - other % 8)
      else bitAt bytes other := by
  have there : position / 8 < bytes.length := by omega
  unfold bitAt
  by_cases same : other / 8 = position / 8
  · rw [if_pos same, same]
    simp [List.getD_eq_getElem?_getD, there]
  · rw [if_neg same]
    simp [List.getD_eq_getElem?_getD, Ne.symm same]

/-- The bits of a byte that has been inverted. -/
theorem testBit_not (byte : UInt8) {index : Nat} (low : index < 8) :
    (~~~ byte).toNat.testBit index = !byte.toNat.testBit index := by
  rw [← UInt8.toNat_toBitVec, BitVec.testBit_toNat, UInt8.toBitVec_not, BitVec.getLsbD_not,
    decide_eq_true low, Bool.true_and, ← BitVec.testBit_toNat, UInt8.toNat_toBitVec]

/-- A change of one byte that gives one of its bits the value. -/
theorem writes_of_byte {value : Bool} {change : Nat → UInt8 → UInt8}
    (bit : ∀ position byte other, (change position byte).toNat.testBit (7 - other % 8) =
      if other % 8 = position % 8 then value else byte.toNat.testBit (7 - other % 8)) :
    Writes value fun bytes position => bytes.modify (position / 8) (change position) where
  length _ _ := List.length_modify ..
  bit bytes position inside other := by
    rw [bitAt_modify _ inside]
    split
    case isFalse different => rw [if_neg fun same => different (congrArg (· / 8) same)]
    case isTrue sameByte =>
      have sameBit : other % 8 = position % 8 ↔ other = position := by omega
      simp only [bit, sameBit, bitAt, sameByte]

/-- Clearing a bit writes a zero. -/
theorem writes_clearBit : Writes false clearBit :=
  writes_of_byte fun position byte other => by
    rw [UInt8.toNat_and, Nat.testBit_and, testBit_not _ (by omega), testBit_singleBit]
    by_cases here : other % 8 = position % 8 <;> simp [here]

/-- Setting a bit writes a one. -/
theorem writes_setBit : Writes true setBit :=
  writes_of_byte fun position byte other => by
    rw [UInt8.toNat_or, Nat.testBit_or, testBit_singleBit]
    by_cases here : other % 8 = position % 8 <;> simp [here]

/-! ## All bits from a position on -/

/-- Bits that are written one after the other have the value, and the others keep theirs. -/
theorem Writes.foldl {value : Bool} {change : List UInt8 → Nat → List UInt8}
    (writes : Writes value change) {positions : List Nat}
    (inside : ∀ position ∈ positions, position < 8 * bytes.length) (other : Nat) :
    (positions.foldl change bytes).length = bytes.length ∧
      bitAt (positions.foldl change bytes) other =
        if other ∈ positions then value else bitAt bytes other := by
  induction positions generalizing bytes with
  | nil => exact ⟨rfl, rfl⟩
  | cons position rest inductionHypothesis =>
    obtain ⟨first, others⟩ := List.forall_mem_cons.mp inside
    have length := writes.length bytes position
    rw [← length] at others
    obtain ⟨sameLength, bits⟩ := inductionHypothesis others
    refine ⟨sameLength.trans length, ?_⟩
    rw [List.foldl_cons, bits, writes.bit bytes position first]
    by_cases later : other ∈ rest <;> by_cases here : other = position <;> simp [later, here]

/-- Writing all bits from a position on leaves the first ones. -/
theorem Writes.positionsFrom {value : Bool} {change : List UInt8 → Nat → List UInt8}
    (writes : Writes value change) (bytes : List UInt8) (length : Nat) :
    ((positionsFrom bytes length).foldl change bytes).length = bytes.length ∧
      ∀ position < 8 * bytes.length,
        bitAt ((positionsFrom bytes length).foldl change bytes) position =
          if position < length then bitAt bytes position else value := by
  have listed {position : Nat} : position ∈ Bytes.positionsFrom bytes length ↔
      length ≤ position ∧ position < 8 * bytes.length := by
    rw [Bytes.positionsFrom, List.mem_range'_1]
    omega
  have inside : ∀ position ∈ Bytes.positionsFrom bytes length, position < 8 * bytes.length :=
    fun position found => (listed.mp found).2
  refine ⟨(writes.foldl inside 0).1, fun position below => ?_⟩
  rw [(writes.foldl inside position).2]
  by_cases early : position < length
  · rw [if_pos early, if_neg fun found => Nat.not_le.mpr early (listed.mp found).1]
  · rw [if_neg early, if_pos (listed.mpr ⟨Nat.not_lt.mp early, below⟩)]

/-- A masked address is as long as the address. -/
theorem length_mask (bytes : List UInt8) (length : Nat) :
    (mask bytes length).length = bytes.length :=
  (writes_clearBit.positionsFrom bytes length).1

/-- A filled address is as long as the address. -/
theorem length_fill (bytes : List UInt8) (length : Nat) :
    (fill bytes length).length = bytes.length :=
  (writes_setBit.positionsFrom bytes length).1

/-- The number of bytes whose last bits have been written: the first bits and, below them, a
number of which all bits have the value. -/
theorem Writes.toNat {value : Bool} {change : List UInt8 → Nat → List UInt8}
    (writes : Writes value change) {length hostBits rest : Nat}
    (whole : length + hostBits = 8 * bytes.length) (small : rest < 2 ^ hostBits)
    (last : ∀ index < hostBits, rest.testBit index = value) :
    Bytes.toNat ((Bytes.positionsFrom bytes length).foldl change bytes) =
      2 ^ hostBits * (Bytes.toNat bytes / 2 ^ hostBits) + rest := by
  obtain ⟨sameLength, bits⟩ := writes.positionsFrom bytes length
  have below : Bytes.toNat bytes < 2 ^ (8 * bytes.length) := by
    rw [Nat.pow_mul]
    exact toNat_lt bytes
  refine toNat_eq_of_bits ?_ fun position inside => ?_
  · rw [← whole, Nat.pow_add] at below
    rw [sameLength, ← whole, Nat.pow_add]
    have quotient := Nat.div_lt_of_lt_mul (Nat.mul_comm .. ▸ below)
    calc 2 ^ hostBits * (Bytes.toNat bytes / 2 ^ hostBits) + rest
        < 2 ^ hostBits * (Bytes.toNat bytes / 2 ^ hostBits + 1) := by
          rw [Nat.mul_succ]
          exact Nat.add_lt_add_left small _
      _ ≤ 2 ^ hostBits * 2 ^ length := Nat.mul_le_mul_left _ quotient
      _ = 2 ^ length * 2 ^ hostBits := Nat.mul_comm _ _
  · rw [sameLength] at inside ⊢
    rw [bits position inside, Nat.testBit_two_pow_mul_add _ small]
    by_cases early : position < length
    · have place : 8 * bytes.length - 1 - position - hostBits + hostBits =
          8 * bytes.length - 1 - position := by omega
      rw [if_pos early, if_neg (by omega), Nat.testBit_div_two_pow, place, testBit_toNat inside]
    · rw [if_neg early, if_pos (by omega), last _ (by omega)]

/-- Clearing the last bits rounds down to a multiple of a power of two. -/
theorem toNat_mask {length hostBits : Nat} (whole : length + hostBits = 8 * bytes.length) :
    toNat (mask bytes length) = 2 ^ hostBits * (toNat bytes / 2 ^ hostBits) :=
  writes_clearBit.toNat whole (Nat.two_pow_pos _) fun index _ => Nat.zero_testBit index

/-- Setting the last bits gives the number before the next multiple of a power of two. -/
theorem toNat_fill {length hostBits : Nat} (whole : length + hostBits = 8 * bytes.length) :
    toNat (fill bytes length) = 2 ^ hostBits * (toNat bytes / 2 ^ hostBits) + (2 ^ hostBits - 1) :=
  writes_setBit.toNat whole (Nat.sub_lt (Nat.two_pow_pos _) Nat.one_pos) fun index inside => by
    rw [Nat.testBit_two_pow_sub_one, decide_eq_true inside]

example : mask [10, 255, 200, 131] 17 = [10, 255, 128, 0] ∧
    fill [10, 255, 128, 0] 17 = [10, 255, 255, 255] := by
  decide

end TopoPlan.Bytes
