/-!
# Numerals

Reading and writing whole numbers in a given base.  Reading refuses anything but
digits, so a numeral has no blanks and no separators; one leading `+` is allowed
where a reader says so.
-/

namespace TopoPlan.Numeral

/-- The value of a digit in bases up to sixteen. -/
def digit? (base : Nat) (character : Char) : Option Nat :=
  let value? :=
    if '0' <= character && character <= '9' then some (character.toNat - '0'.toNat)
    else if 'a' <= character && character <= 'f' then some (character.toNat - 'a'.toNat + 10)
    else if 'A' <= character && character <= 'F' then some (character.toNat - 'A'.toNat + 10)
    else none
  value?.filter (· < base)

/-- Why a text is not a whole number below a limit. -/
inductive Fault where
  | empty
  | badDigit
  | tooLarge
  deriving DecidableEq, Inhabited

/-- The wording of a fault. -/
def Fault.message : Fault -> String
  | .empty => "cannot parse integer from empty string"
  | .badDigit => "invalid digit found in string"
  | .tooLarge => "number too large to fit in target type"

/-- Continue a number with further digits; the first fault from the left counts. -/
def extend (base limit : Nat) : Nat -> List Char -> Except Fault Nat
  | value, [] => .ok value
  | value, character :: rest =>
    match digit? base character with
    | none => .error .badDigit
    | some digit =>
      let next := value * base + digit
      if next < limit then extend base limit next rest else .error .tooLarge

/-- Read a number below the limit, with an optional leading `+`. -/
def read (base limit : Nat) : List Char -> Except Fault Nat
  | [] => .error .empty
  | ['+'] => .error .badDigit
  | '+' :: digits => extend base limit 0 digits
  | digits => extend base limit 0 digits

/-- Read decimal digits only, without sign and of any length. -/
def natural? (digits : List Char) : Option Nat :=
  if digits.isEmpty then none
  else digits.foldl
    (fun value? character => do
      let value <- value?
      let digit <- digit? 10 character
      pure (value * 10 + digit)) (some 0)

/-- Read a decimal number with an optional sign. -/
def integer? : List Char -> Option Int
  | '-' :: digits => (natural? digits).map fun value => -(value : Int)
  | '+' :: digits => (natural? digits).map Int.ofNat
  | digits => (natural? digits).map Int.ofNat

/-- Whether a number fits in a signed word of 64 bits. -/
def fitsWord (value : Int) : Bool :=
  -(Int.pow 2 63) <= value && value < Int.pow 2 63

/-- The decimal text of a number. -/
def text (value : Nat) : String :=
  String.ofList (Nat.toDigits 10 value)

/-- The decimal text of an integer. -/
def integerText (value : Int) : String :=
  if value < 0 then "-" ++ text value.natAbs else text value.natAbs

end TopoPlan.Numeral
