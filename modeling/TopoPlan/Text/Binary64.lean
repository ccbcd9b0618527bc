import TopoPlan.Text.Numeral

/-!
# Binary real numbers in text

A real number is kept as the 64 bits of its binary form.  It is written with the
fewest digits that read back as the same number; of several such decimals the one
nearest to it is taken, and of two equally near ones the even one.  Reading a decimal is
correctly rounded, whatever the number of its digits.
-/

namespace TopoPlan

/-- A binary real number, given by its 64 bits. -/
structure Binary64 where
  bits : UInt64
  deriving DecidableEq, Inhabited

namespace Binary64

/-- Whether the number is negative; zero has both signs. -/
def isNegative (real : Binary64) : Bool := real.bits >>> 63 == 1

/-- The exponent field. -/
def exponentField (real : Binary64) : Nat := ((real.bits >>> 52) &&& 0x7ff).toNat

/-- The fraction field. -/
def fractionField (real : Binary64) : Nat := (real.bits &&& 0xfffffffffffff).toNat

/-- Whether the number is neither infinite nor undefined. -/
def isFinite (real : Binary64) : Bool := real.exponentField != 0x7ff

/-- The number nearest to `digits * 10 ^ exponent`, with a sign. -/
def ofDecimal (negative : Bool) (digits : Nat) (exponent : Int) : Binary64 :=
  let magnitude :=
    if exponent < 0 then Float.ofScientific digits true exponent.natAbs
    else Float.ofScientific digits false exponent.natAbs
  let bits := magnitude.toBits
  ⟨if negative then bits ||| ((1 : UInt64) <<< 63) else bits⟩

/-- The magnitude of a finite number as `mantissa * 2 ^ (scale - 1074)`. -/
def mantissaAndScale (real : Binary64) : Nat × Nat :=
  if real.exponentField = 0 then (real.fractionField, 0)
  else (Nat.pow 2 52 + real.fractionField, real.exponentField - 1)

/-- The decimals that read back as a number: those between two ends, all three
given as multiples of a power of two that is itself `1 / unit` or `unit`. -/
structure Rounding where
  low : Nat
  value : Nat
  high : Nat
  /-- The ends round to the number too. -/
  closed : Bool
  /-- The common denominator of the three. -/
  denominator : Nat

/-- The decimals that read back as a finite number that is not zero. -/
def rounding (real : Binary64) : Rounding :=
  let (mantissa, scale) := real.mantissaAndScale
  let below := if mantissa = Nat.pow 2 52 && 0 < scale then 1 else 2
  let factor := Nat.pow 2 scale
  { low := (4 * mantissa - below) * factor
    value := 4 * mantissa * factor
    high := (4 * mantissa + 2) * factor
    closed := mantissa % 2 == 0
    denominator := Nat.pow 2 1076 }

/-- Whether a decimal, given over the same denominator, reads back. -/
def Rounding.admits (range : Rounding) (decimal : Nat) : Bool :=
  if range.closed then range.low <= decimal && decimal <= range.high
  else range.low < decimal && decimal < range.high

/-- The multiple of a power of ten that reads back, if there is one: the nearer of
the two neighbours of the number.  `up` and `down` scale the grid to integers. -/
def Rounding.onGrid? (range : Rounding) (exponent : Int) : Option Nat :=
  let up := if exponent < 0 then Nat.pow 10 exponent.natAbs else 1
  let step := (if exponent < 0 then 1 else Nat.pow 10 exponent.natAbs) * range.denominator
  let scaled : Rounding :=
    { range with low := range.low * up, value := range.value * up, high := range.high * up }
  let count := scaled.value / step
  let lower := count * step
  let upper := lower + step
  match count != 0 && scaled.admits lower, scaled.admits upper with
  | false, false => none
  | true, false => some count
  | false, true => some (count + 1)
  | true, true =>
    let distanceDown := scaled.value - lower
    let distanceUp := upper - scaled.value
    if distanceDown < distanceUp then some count
    else if distanceUp < distanceDown then some (count + 1)
    else if count % 2 = 0 then some count else some (count + 1)

/-- Search the grids from a coarse one downwards for the first that reads back. -/
def searchGrids (range : Rounding) : Nat -> Int -> Nat × Int
  | 0, exponent => (0, exponent)
  | steps + 1, exponent =>
    match range.onGrid? exponent with
    | some digits => (digits, exponent)
    | none => searchGrids range steps (exponent - 1)

/-- The shortest decimal that reads back as a finite number that is not zero. -/
def shortest (real : Binary64) : Nat × Int :=
  searchGrids real.rounding 640 308

/-- The layout of a decimal: positional with at least one fractional digit while
the point stands among the first sixteen digits or at most five places before
them, and otherwise with an exponent. -/
def layout (digits : List Char) (exponent : Int) : List Char :=
  let point : Int := digits.length + exponent
  if 0 <= exponent && point <= 16 then
    digits ++ List.replicate exponent.toNat '0' ++ ['.', '0']
  else if 0 < point && point <= 16 then
    digits.take point.toNat ++ ['.'] ++ digits.drop point.toNat
  else if -5 < point && point <= 0 then
    ['0', '.'] ++ List.replicate (-point).toNat '0' ++ digits
  else
    let tail := 'e' :: (Numeral.integerText (point - 1)).toList
    match digits with
    | [] => tail
    | [digit] => digit :: tail
    | digit :: rest => digit :: '.' :: rest ++ tail

/-- The text of a number. -/
def text (real : Binary64) : String :=
  let sign := if real.isNegative then "-" else ""
  if !real.isFinite then
    if real.fractionField = 0 then sign ++ ".inf" else ".nan"
  else if real.fractionField = 0 && real.exponentField = 0 then sign ++ "0.0"
  else
    let (digits, exponent) := real.shortest
    sign ++ String.ofList (layout (Nat.toDigits 10 digits) exponent)

end Binary64

end TopoPlan
