import TopoPlan.Data.Value
import TopoPlan.Text.Blank

/-!
# Plain scalars

A scalar written without quotes stands for a null, a truth value, a number or a
text, by the core schema: an integer has no leading zeros, may carry a sign and may
be hexadecimal, octal or binary after `0x`, `0o` or `0b`.
-/

namespace TopoPlan.Plain

/-- Whether a scalar stands for nothing. -/
def isNull (content : String) : Bool :=
  ["", "~", "null", "Null", "NULL"].contains content

/-- The truth value that a scalar stands for. -/
def bool? (content : String) : Option Bool :=
  if ["true", "True", "TRUE"].contains content then some true
  else if ["false", "False", "FALSE"].contains content then some false
  else none

/-- Digits of a base, at least one. -/
def digits? (base : Nat) (characters : List Char) : Option Nat :=
  if characters.isEmpty then none
  else characters.foldlM
    (fun value character => (Numeral.digit? base character).map (value * base + ·)) 0

/-- Separate a sign from what follows it. -/
def splitSign : List Char -> Option Char × List Char
  | '-' :: rest => (some '-', rest)
  | '+' :: rest => (some '+', rest)
  | rest => (none, rest)

/-- Whether decimal digits carry a leading zero, which makes them a text. -/
def hasLeadingZero (characters : List Char) : Bool :=
  characters.head? == some '0' && 1 < characters.length &&
    characters.all fun character => (Numeral.digit? 10 character).isSome

/-- The magnitude of an integer. -/
def magnitude? (characters : List Char) : Option Nat :=
  match characters with
  | '0' :: 'x' :: digits => digits? 16 digits
  | '0' :: 'o' :: digits => digits? 8 digits
  | '0' :: 'b' :: digits => digits? 2 digits
  | digits => if hasLeadingZero digits then none else digits? 10 digits

/-- The integer that a scalar stands for. -/
def integer? (content : String) : Option Int :=
  let (sign, rest) := splitSign content.toList
  (magnitude? rest).map fun magnitude =>
    if sign = some '-' then -(magnitude : Int) else magnitude

/-- The digits at the start of a text, and the rest. -/
def spanDigits (characters : List Char) : List Char × List Char :=
  characters.span fun character => (Numeral.digit? 10 character).isSome

/-- The decimal exponent at the end of a number. -/
def exponent? (characters : List Char) : Option Int :=
  match characters with
  | [] => some 0
  | mark :: rest =>
    if mark = 'e' || mark = 'E' then
      let (sign, digits) := splitSign rest
      (Numeral.natural? digits).map fun magnitude =>
        if sign = some '-' then -(magnitude : Int) else magnitude
    else none

/-- A finite decimal number without sign. -/
def decimal? (negative : Bool) (characters : List Char) : Option Binary64 := do
  let (whole, rest) := spanDigits characters
  let (fraction, rest) :=
    match rest with
    | '.' :: rest => spanDigits rest
    | rest => ([], rest)
  let digits <- Numeral.natural? (whole ++ fraction)
  let exponent <- exponent? rest
  let number := Binary64.ofDecimal negative digits (exponent - fraction.length)
  if number.isFinite then pure number else none

/-- The real number that a scalar stands for. -/
def real? (content : String) : Option Binary64 :=
  if [".nan", ".NaN", ".NAN"].contains content then some ⟨0x7ff8000000000000⟩
  else
    let (sign, rest) := splitSign content.toList
    let negative := sign = some '-'
    if [".inf", ".Inf", ".INF"].contains (String.ofList rest) then
      some ⟨if negative then 0xfff0000000000000 else 0x7ff0000000000000⟩
    else if hasLeadingZero rest then none
    else decimal? negative rest

/-- The value that a scalar stands for.  An integer beyond 64 bits has none, unless
it is beyond 128 bits too and so reads as a real number. -/
def value? (content : String) : Option Value :=
  if isNull content then some .null
  else
    match bool? content with
    | some flag => some (.bool flag)
    | none =>
      match integer? content with
      | some number =>
        if -(Int.pow 2 63) <= number && number < Int.pow 2 64 then some (.integer number)
        else if -(Int.pow 2 127) <= number && number < Int.pow 2 128 then none
        else some (((real? content).map Value.real).getD (.text content))
      | none => some (((real? content).map Value.real).getD (.text content))

/-- Whether a text would be read as something else if it were written plain. -/
def isAmbiguous (content : String) : Bool :=
  isNull content || (bool? content).isSome || (integer? content).isSome ||
    (real? content).isSome || hasLeadingZero (splitSign content.toList).2

end TopoPlan.Plain
