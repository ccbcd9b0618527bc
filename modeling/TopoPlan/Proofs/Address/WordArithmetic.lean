import TopoPlan.Proofs.Address.ByteArithmetic

/-!
# Arithmetic on bytes in machine words

The same additions and subtractions with everything that is carried along kept in words of a
fixed size: a number to add has 128 bits, and the sum or difference of one place is a word of
16 bits.  Words are never too small, so `addInWords_eq` and `differenceInWords?_eq` say that
nothing changes.  The main statement, `exactArithmetic`, is that both ways of computing are
exact on the numbers that bytes stand for.
-/

namespace TopoPlan.Bytes

variable {left right bytes : List UInt8}

/-! ## Addition -/

/-- Add to bytes listed from the least significant one.  What is left of the number is shifted
along, and the carry is the upper half of the sum of a place. -/
def addWords : List UInt8 → BitVec 128 → UInt16 → List UInt8 × Bool
  | [], remaining, carry => ([], carry == 0 && remaining == 0)
  | byte :: rest, remaining, carry =>
    let sum := byte.toUInt16 + UInt16.ofNat (remaining &&& 0xff).toNat + carry
    let (bytes, fits) := addWords rest (remaining >>> 8) (sum >>> 8)
    ((sum &&& 0xff).toUInt8 :: bytes, fits)

/-- Add a number of 128 bits to a byte string, and tell whether the sum fits. -/
def addInWords (bytes : List UInt8) (offset : BitVec 128) : List UInt8 × Bool :=
  let (reversed, fits) := addWords bytes.reverse offset 0
  (reversed.reverse, fits)

/-- The sum of one place with its carry is below the size of a word. -/
theorem toNat_placeSum (byte : UInt8) (remaining : BitVec 128) {carry : UInt16}
    (single : carry.toNat ≤ 1) :
    (byte.toUInt16 + UInt16.ofNat (remaining &&& 0xff).toNat + carry).toNat =
      byte.toNat + remaining.toNat % 256 + carry.toNat := by
  have low : (remaining &&& 0xff).toNat = remaining.toNat % 256 := by
    rw [BitVec.toNat_and]
    exact Nat.and_two_pow_sub_one_eq_mod remaining.toNat 8
  have bound := byte.toNat_lt
  have lowBound := Nat.mod_lt remaining.toNat (by decide : 256 > 0)
  rw [UInt16.toNat_add, UInt16.toNat_add, UInt8.toNat_toUInt16, UInt16.toNat_ofNat', low]
  omega

/-- In words the same bytes are written as with numbers of any size, and the sum fits when
nothing is left over. -/
theorem addWords_eq (bytes : List UInt8) (remaining : BitVec 128) {carry : UInt16}
    (single : carry.toNat ≤ 1) :
    addWords bytes remaining carry =
      ((addReversed bytes (remaining.toNat + carry.toNat)).1,
        (addReversed bytes (remaining.toNat + carry.toNat)).2 == 0) := by
  induction bytes generalizing remaining carry with
  | nil =>
    have none : (carry == 0 && remaining == 0) = (remaining.toNat + carry.toNat == 0) := by
      rw [Bool.eq_iff_iff, Bool.and_eq_true, beq_iff_eq, beq_iff_eq, beq_iff_eq,
        Nat.add_eq_zero_iff, and_comm, ← BitVec.toNat_inj, ← UInt16.toNat_inj]
      rfl
    rw [addWords, addReversed, none]
  | cons byte rest inductionHypothesis =>
    have place := toNat_placeSum byte remaining single
    rw [addWords, addReversed]
    generalize byte.toUInt16 + UInt16.ofNat (remaining &&& 0xff).toNat + carry = sum at place ⊢
    have bound := byte.toNat_lt
    have lowBound := Nat.mod_lt remaining.toNat (by decide : 256 > 0)
    have upper : (sum >>> 8).toNat = sum.toNat / 256 := by
      rw [UInt16.toNat_shiftRight]
      exact Nat.shiftRight_eq_div_pow _ _
    have shifted : (remaining >>> 8).toNat = remaining.toNat / 256 := by
      rw [BitVec.toNat_ushiftRight]
      exact Nat.shiftRight_eq_div_pow _ _
    -- The carry of a place is the same whether the one before is added to the number or not.
    have next : (remaining >>> 8).toNat + (sum >>> 8).toNat =
        (remaining.toNat + carry.toNat) / 256 +
          (byte.toNat + (remaining.toNat + carry.toNat) % 256) / 256 := by
      rw [upper, shifted, place]
      omega
    have written : (sum &&& 0xff).toUInt8 =
        UInt8.ofNat ((byte.toNat + (remaining.toNat + carry.toNat) % 256) % 256) := by
      have low : (sum &&& 0xff).toNat = sum.toNat % 256 := by
        rw [UInt16.toNat_and]
        exact Nat.and_two_pow_sub_one_eq_mod sum.toNat 8
      apply UInt8.toNat.inj
      rw [UInt16.toNat_toUInt8, UInt8.toNat_ofNat', low, place]
      omega
    rw [inductionHypothesis _ (by rw [upper]; omega), next, written]

/-- In words a byte string and a number have the same sum. -/
theorem addInWords_eq (bytes : List UInt8) (offset : BitVec 128) :
    addInWords bytes offset = add bytes offset.toNat := by
  rw [addInWords, addWords_eq _ _ (by decide : (0 : UInt16).toNat ≤ 1), add]
  rfl

/-! ## Subtraction -/

/-- Subtract bytes listed from the least significant one.  A negative difference of a place
borrows from the next one. -/
def subtractWords : List UInt8 → List UInt8 → Int16 → List UInt8 × Int16
  | left :: lefts, right :: rights, borrow =>
    let difference := Int16.ofInt left.toNat - Int16.ofInt right.toNat - borrow
    if difference < 0 then
      let (bytes, last) := subtractWords lefts rights 1
      (UInt8.ofInt (difference + 256).toInt :: bytes, last)
    else
      let (bytes, last) := subtractWords lefts rights 0
      (UInt8.ofInt difference.toInt :: bytes, last)
  | _, _, borrow => ([], borrow)

/-- Continue a number of 128 bits with a byte. -/
def shiftIn (word : BitVec 128) (byte : UInt8) : BitVec 128 :=
  word <<< 8 ||| byte.toBitVec.setWidth 128

/-- The number of 128 bits that bytes stand for. -/
def toWord (bytes : List UInt8) : BitVec 128 := bytes.foldl shiftIn 0

/-- The difference of two byte strings of one length of at most sixteen, unless it is
negative. -/
def differenceInWords? (left right : List UInt8) : Option (BitVec 128) :=
  if left.length != right.length || 16 < left.length then none
  else
    let (reversed, borrow) := subtractWords left.reverse right.reverse 0
    if borrow != 0 then none else some (toWord reversed.reverse)

/-- Numbers of a signed word of 16 bits. -/
theorem bmod_word {number : Int} (lower : -2 ^ 15 ≤ number) (upper : number < 2 ^ 15) :
    number.bmod (2 ^ 16) = number :=
  Int.bmod_eq_of_le (by omega) (by omega)

/-- The difference of one place lies within a word. -/
theorem toInt_placeDifference (left right : UInt8) {borrow : Int16} {borrowed : Nat}
    (same : borrow.toInt = borrowed) (single : borrowed ≤ 1) :
    (Int16.ofInt left.toNat - Int16.ofInt right.toNat - borrow).toInt =
      left.toNat - right.toNat - borrowed := by
  have leftBound := left.toNat_lt
  have rightBound := right.toNat_lt
  have place (byte : UInt8) : (Int16.ofInt byte.toNat).toInt = byte.toNat := by
    have bound := byte.toNat_lt
    rw [Int16.toInt_ofInt]
    exact bmod_word (by omega) (by omega)
  rw [Int16.toInt_sub, Int16.toInt_sub, place, place, same, Int.bmod_sub_bmod]
  exact bmod_word (by omega) (by omega)

/-- A number of a byte is written as this byte. -/
theorem ofInt_natCast (value : Nat) : UInt8.ofInt value = UInt8.ofNat value := by
  have low : ((value : Int) % 2 ^ 8).toNat = value % 2 ^ 8 := by omega
  rw [UInt8.ofInt, low, UInt8.ofNat_mod_size]

/-- In words the same bytes are written as with numbers of any size, and as much is borrowed in
the end. -/
theorem subtractWords_eq (left right : List UInt8) {borrow : Int16} {borrowed : Nat}
    (same : borrow.toInt = borrowed) (single : borrowed ≤ 1) :
    (subtractWords left right borrow).1 = (subtractReversed left right borrowed).1 ∧
      (subtractWords left right borrow).2.toInt = (subtractReversed left right borrowed).2 := by
  induction left generalizing right borrow borrowed with
  | nil => exact ⟨rfl, same⟩
  | cons first lefts inductionHypothesis =>
    cases right with
    | nil => exact ⟨rfl, same⟩
    | cons second rights =>
      have place := toInt_placeDifference first second same single
      have firstBound := first.toNat_lt
      have secondBound := second.toNat_lt
      rw [subtractWords, subtractReversed]
      generalize Int16.ofInt first.toNat - Int16.ofInt second.toNat - borrow = difference at place ⊢
      have negative_iff : difference < 0 ↔ first.toNat < second.toNat + borrowed := by
        rw [Int16.lt_iff_toInt_lt, place, Int16.toInt_zero]
        omega
      by_cases fits : second.toNat + borrowed ≤ first.toNat
      case pos =>
        obtain ⟨bytes, last⟩ := inductionHypothesis rights Int16.toInt_zero (Nat.zero_le 1)
        have digit :
            difference.toInt = ((first.toNat - (second.toNat + borrowed) : Nat) : Int) := by
          rw [place]
          omega
        rw [if_pos fits, if_neg (negative_iff.not.mpr (Nat.not_lt.mpr fits)), digit,
          ofInt_natCast]
        exact ⟨congrArg _ bytes, last⟩
      case neg =>
        have one : (1 : Int16).toInt = (1 : Nat) := rfl
        obtain ⟨bytes, last⟩ := inductionHypothesis rights one (Nat.le_refl 1)
        have digit : (difference + 256).toInt =
            ((first.toNat + 256 - (second.toNat + borrowed) : Nat) : Int) := by
          have raised : (256 : Int16).toInt = 256 := rfl
          rw [Int16.toInt_add, place, raised, bmod_word (by omega) (by omega)]
          omega
        rw [if_neg fits, if_pos (negative_iff.mpr (Nat.not_le.mp fits)), digit, ofInt_natCast]
        exact ⟨congrArg _ bytes, last⟩

/-- A byte is shifted in without a loss while there is room for it. -/
theorem toNat_shiftIn {word : BitVec 128} {byte : UInt8} (room : word.toNat * 256 < 2 ^ 128) :
    (shiftIn word byte).toNat = word.toNat * 256 + byte.toNat := by
  have bound := byte.toNat_lt
  have shifted : word.toNat <<< 8 = word.toNat * 256 := Nat.shiftLeft_eq _ _
  rw [shiftIn, BitVec.toNat_or, BitVec.toNat_shiftLeft, BitVec.toNat_setWidth,
    UInt8.toNat_toBitVec, shifted, Nat.mod_eq_of_lt room, Nat.mod_eq_of_lt (by omega), ← shifted,
    ← Nat.shiftLeft_add_eq_or_of_lt bound]

/-- Bytes are read without a loss while they fit in the word after the number so far. -/
theorem toNat_foldl_shiftIn {word : BitVec 128}
    (fits : (word.toNat + 1) * 256 ^ bytes.length ≤ 2 ^ 128) :
    (bytes.foldl shiftIn word).toNat =
      bytes.foldl (fun value byte => value * 256 + byte.toNat) word.toNat := by
  induction bytes generalizing word with
  | nil => rfl
  | cons byte rest inductionHypothesis =>
    have bound := byte.toNat_lt
    rw [List.length_cons, Nat.pow_succ', ← Nat.mul_assoc] at fits
    have room : (word.toNat + 1) * 256 ≤ 2 ^ 128 :=
      (Nat.le_mul_of_pos_right _ (Nat.pow_pos (by decide))).trans fits
    have next : (shiftIn word byte).toNat = word.toNat * 256 + byte.toNat :=
      toNat_shiftIn (by omega)
    rw [List.foldl_cons, List.foldl_cons, ← next]
    refine inductionHypothesis ((Nat.mul_le_mul_right _ ?_).trans fits)
    rw [next]
    omega

/-- At most sixteen bytes are read without a loss. -/
theorem toNat_toWord (short : bytes.length ≤ 16) : (toWord bytes).toNat = toNat bytes := by
  refine toNat_foldl_shiftIn ?_
  calc (0 + 1) * 256 ^ bytes.length ≤ (0 + 1) * 256 ^ 16 :=
        Nat.mul_le_mul_left _ (Nat.pow_le_pow_right (by decide) short)
    _ = 2 ^ 128 := by norm_num

/-- In words two byte strings have the same difference. -/
theorem differenceInWords?_eq (left right : List UInt8) :
    (differenceInWords? left right).map BitVec.toNat = difference? left right := by
  unfold differenceInWords? difference?
  split
  case isTrue => rfl
  case isFalse shape =>
    have lengths : left.length = right.length ∧ left.length ≤ 16 := by simpa using shape
    have reversedLengths : left.reverse.length = right.reverse.length := by simpa using lengths.1
    obtain ⟨bytes, last⟩ :=
      subtractWords_eq left.reverse right.reverse Int16.toInt_zero (Nat.zero_le 1)
    obtain ⟨length, _, _⟩ := subtractReversed_value reversedLengths (Nat.zero_le 1)
    have short : (subtractReversed left.reverse right.reverse 0).1.reverse.length ≤ 16 := by
      rw [List.length_reverse, length, List.length_reverse]
      exact lengths.2
    have none : (subtractWords left.reverse right.reverse 0).2 = 0 ↔
        (subtractReversed left.reverse right.reverse 0).2 = 0 := by
      rw [← Int16.toInt_inj, last, Int16.toInt_zero, Int.natCast_eq_zero]
    dsimp only
    rw [bytes]
    by_cases settled : (subtractReversed left.reverse right.reverse 0).2 = 0
    case pos =>
      rw [if_pos settled, none.mpr settled]
      exact congrArg some (toNat_toWord short)
    case neg =>
      rw [if_neg settled, if_pos (bne_iff_ne.mpr (none.not.mpr settled))]
      rfl

/-! ## Exactness -/

/-- An addition and a subtraction are those of the numbers that bytes stand for. -/
structure ExactArithmetic (add : List UInt8 → BitVec 128 → List UInt8 × Bool)
    (difference? : List UInt8 → List UInt8 → Option Nat) : Prop where
  /-- An addition tells whether the sum fits in as many bytes. -/
  fits : ∀ bytes offset,
    (add bytes offset).2 = true ↔ toNat bytes + offset.toNat < 2 ^ (8 * bytes.length)
  /-- The sum has as many bytes. -/
  length : ∀ bytes offset, (add bytes offset).1.length = bytes.length
  /-- The sum is reduced to as many bytes. -/
  sum : ∀ bytes offset,
    toNat (add bytes offset).1 = (toNat bytes + offset.toNat) % 2 ^ (8 * bytes.length)
  /-- Of two byte strings of one length the smaller one can be subtracted from the greater
  one, and only so. -/
  difference : ∀ left right, left.length = right.length → left.length ≤ 16 →
    difference? left right =
      if toNat right ≤ toNat left then some (toNat left - toNat right) else none
  /-- What was added is the difference to the bytes before. -/
  added : ∀ bytes offset, bytes.length ≤ 16 → (add bytes offset).2 = true →
    difference? (add bytes offset).1 bytes = some offset.toNat

theorem pow_length (bytes : List UInt8) : 2 ^ (8 * bytes.length) = 256 ^ bytes.length :=
  Nat.pow_mul 2 8 bytes.length

/-- Addition and subtraction of bytes are exact, with numbers of any size and in words. -/
theorem exactArithmetic :
    ExactArithmetic (fun bytes offset => add bytes offset.toNat) difference? ∧
      ExactArithmetic addInWords
        fun left right => (differenceInWords? left right).map BitVec.toNat := by
  have exact : ExactArithmetic (fun bytes offset => add bytes offset.toNat) difference? :=
    { fits := fun bytes offset => by
        rw [pow_length]
        exact add_fits_iff bytes offset.toNat
      length := fun bytes offset => length_add bytes offset.toNat
      sum := fun bytes offset => by
        rw [pow_length]
        exact toNat_add bytes offset.toNat
      difference := fun left right => difference?_eq
      added := fun bytes offset short fits => by
        have bound := (add_fits_iff bytes offset.toNat).mp fits
        have length := length_add bytes offset.toNat
        rw [difference?_eq length (length ▸ short), toNat_add, Nat.mod_eq_of_lt bound,
          if_pos (Nat.le_add_right _ _), Nat.add_sub_cancel_left] }
  refine ⟨exact, ?_⟩
  have add_eq : addInWords = fun bytes offset => add bytes offset.toNat := by
    funext bytes offset
    exact addInWords_eq bytes offset
  have difference_eq :
      (fun left right => (differenceInWords? left right).map BitVec.toNat) = difference? := by
    funext left right
    exact differenceInWords?_eq left right
  rw [add_eq, difference_eq]
  exact exact

example : add [10, 255, 255, 255] 0x0101 = ([11, 0, 1, 0], true) ∧
    addInWords [255, 255, 255, 255] 1 = ([0, 0, 0, 0], false) ∧
    difference? [10, 0, 1, 0] [10, 0, 0, 255] = some 1 ∧
    differenceInWords? [10, 0, 0, 0] [10, 0, 0, 1] = none := by
  decide +kernel

end TopoPlan.Bytes
