import TopoPlan.Data.Value
import TopoPlan.Text.Blank

/-!
# JSON texts

Reading and writing of JSON.  Reading keeps the entries of an object as they are
written; `Value.sorted` lists keys in the order of their code points, where the last
entry of a repeated key counts.  Integers that fit a word of 64 bits stay integers;
every other number is real.  A real number is the binary one nearest to the decimal that is
written.  A reader that rounds faster may be off by one in the last place of some decimals with
many digits or large exponents, so readers of JSON are an argument of what reads files.
-/

namespace TopoPlan.Json

/-- A reader of a start of a text: a result and what remains. -/
abbrev Reader (α : Type) := List Char -> Option (α × List Char)

/-- Blanks between tokens. -/
def isBlank (character : Char) : Bool :=
  character == ' ' || character == '\t' || character == '\n' || character == '\r'

/-- Leave out blanks at the start. -/
def skipBlanks (text : List Char) : List Char := text.dropWhile isBlank

/-- Four hexadecimal digits. -/
def readUnit : Reader Nat
  | first :: second :: third :: fourth :: rest => do
    let a <- Numeral.digit? 16 first
    let b <- Numeral.digit? 16 second
    let c <- Numeral.digit? 16 third
    let d <- Numeral.digit? 16 fourth
    pure (((a * 16 + b) * 16 + c) * 16 + d, rest)
  | _ => none

/-- The character after the escape mark `u`: one unit, or two units that stand for
a character beyond the first plane. -/
def readEscapedUnit : Reader Char := fun text => do
  let (unit, rest) <- readUnit text
  if 0xDC00 <= unit && unit <= 0xDFFF then none
  else if 0xD800 <= unit && unit <= 0xDBFF then
    match rest with
    | '\\' :: 'u' :: rest =>
      let (low, rest) <- readUnit rest
      if 0xDC00 <= low && low <= 0xDFFF then
        pure (Char.ofNat (0x10000 + (unit - 0xD800) * 0x400 + (low - 0xDC00)), rest)
      else none
    | _ => none
  else pure (Char.ofNat unit, rest)

/-- The character of a one-letter escape. -/
def escape? : Char -> Option Char
  | '"' => some '"'
  | '\\' => some '\\'
  | '/' => some '/'
  | 'b' => some (Char.ofNat 0x08)
  | 'f' => some (Char.ofNat 0x0C)
  | 'n' => some '\n'
  | 'r' => some '\r'
  | 't' => some '\t'
  | _ => none

/-- The rest of a text up to its closing quote. -/
def readQuoted : Nat -> Reader (List Char)
  | 0, _ => none
  | _ + 1, [] => none
  | steps + 1, character :: rest =>
    if character = '"' then some ([], rest)
    else if character = '\\' then
      match rest with
      | 'u' :: rest => do
        let (decoded, rest) <- readEscapedUnit rest
        let (content, rest) <- readQuoted steps rest
        pure (decoded :: content, rest)
      | mark :: rest => do
        let decoded <- escape? mark
        let (content, rest) <- readQuoted steps rest
        pure (decoded :: content, rest)
      | [] => none
    else if character.toNat < 0x20 then none
    else do
      let (content, rest) <- readQuoted steps rest
      pure (character :: content, rest)

/-- A quoted text. -/
def readText : Reader String
  | '"' :: rest => do
    let (content, rest) <- readQuoted (rest.length + 1) rest
    pure (String.ofList content, rest)
  | _ => none

/-- The digits at the start of a text. -/
def spanDigits (text : List Char) : List Char × List Char :=
  (text.takeWhile fun character => (Numeral.digit? 10 character).isSome,
    text.dropWhile fun character => (Numeral.digit? 10 character).isSome)

/-- The digits after a point, if there is one. -/
def readFraction : Reader (Option (List Char))
  | '.' :: rest =>
    let (digits, rest) := spanDigits rest
    if digits.isEmpty then none else some (some digits, rest)
  | text => some (none, text)

/-- The exponent, if there is one. -/
def readExponent : Reader (Option Int)
  | [] => some (none, [])
  | mark :: rest =>
    if mark = 'e' || mark = 'E' then
      let (negative, rest) :=
        match rest with
        | '-' :: rest => (true, rest)
        | '+' :: rest => (false, rest)
        | rest => (false, rest)
      let (digits, rest) := spanDigits rest
      (Numeral.natural? digits).map fun magnitude =>
        (some (if negative then -(magnitude : Int) else magnitude), rest)
    else some (none, mark :: rest)

/-- The integer or real number with the given parts.  A negative zero is real. -/
def numberOf (negative : Bool) (whole : Nat) (wholeDigits : List Char)
    (fraction : Option (List Char)) (exponent : Option Int) : Option Value :=
  match fraction, exponent with
  | none, none =>
    if negative && whole != 0 && whole <= Nat.pow 2 63 then some (.integer (-(whole : Int)))
    else if !negative && whole < Nat.pow 2 64 then some (.integer whole)
    else some (.real (Binary64.ofDecimal negative whole 0))
  | _, _ => do
    let fractionDigits := fraction.getD []
    let digits <- Numeral.natural? (wholeDigits ++ fractionDigits)
    let number := Binary64.ofDecimal negative digits (exponent.getD 0 - fractionDigits.length)
    if number.isFinite then pure (.real number) else none

/-- A number. -/
def readNumber : Reader Value := fun text => do
  let (negative, text) :=
    match text with
    | '-' :: rest => (true, rest)
    | text => (false, text)
  let (digits, rest) := spanDigits text
  let whole <- Numeral.natural? digits
  if 1 < digits.length && digits.head? == some '0' then none
  else
    let (fraction, rest) <- readFraction rest
    let (exponent, rest) <- readExponent rest
    let number <- numberOf negative whole digits fraction exponent
    pure (number, rest)

mutual

/-- A value, with blanks before it. -/
def readValue : Nat -> Reader Value
  | 0, _ => none
  | steps + 1, text =>
    match skipBlanks text with
    | '[' :: rest =>
      match skipBlanks rest with
      | ']' :: rest => some (.list [], rest)
      | rest => (readItems steps rest).map fun found => (.list found.1, found.2)
    | '\x7b' :: rest =>
      match skipBlanks rest with
      | '\x7d' :: rest => some (.mapping [], rest)
      | rest => (readEntries steps rest).map fun found => (.fields found.1, found.2)
    | '"' :: rest => (readText ('"' :: rest)).map fun found => (.text found.1, found.2)
    | 't' :: 'r' :: 'u' :: 'e' :: rest => some (.bool true, rest)
    | 'f' :: 'a' :: 'l' :: 's' :: 'e' :: rest => some (.bool false, rest)
    | 'n' :: 'u' :: 'l' :: 'l' :: rest => some (.null, rest)
    | text => readNumber text

/-- The items of a list up to its end. -/
def readItems : Nat -> Reader (List Value)
  | 0, _ => none
  | steps + 1, text => do
    let (item, rest) <- readValue steps text
    match skipBlanks rest with
    | ',' :: rest =>
      let (items, rest) <- readItems steps rest
      pure (item :: items, rest)
    | ']' :: rest => pure ([item], rest)
    | _ => none

/-- The entries of an object up to its end. -/
def readEntries : Nat -> Reader (List (String × Value))
  | 0, _ => none
  | steps + 1, text => do
    let (key, rest) <- readText (skipBlanks text)
    match skipBlanks rest with
    | ':' :: rest =>
      let (value, rest) <- readValue steps rest
      match skipBlanks rest with
      | ',' :: rest =>
        let (entries, rest) <- readEntries steps rest
        pure ((key, value) :: entries, rest)
      | '\x7d' :: rest => pure ([(key, value)], rest)
      | _ => none
    | _ => none

end

/-- How many lists and objects may stand inside each other. -/
def depthLimit : Nat := 127

/-- Read a text that holds one value, which must not be nested too deeply. -/
def parse? (text : String) : Option Value :=
  let characters := text.toList
  match readValue (2 * characters.length + 2) characters with
  | some (value, rest) =>
    if (skipBlanks rest).isEmpty && value.depth <= depthLimit then some value else none
  | none => none

/-- A hexadecimal digit. -/
def hexDigit (value : Nat) : Char :=
  if value < 10 then Char.ofNat ('0'.toNat + value) else Char.ofNat ('a'.toNat + value - 10)

/-- One character of a quoted text. -/
def quoteCharacter (character : Char) : List Char :=
  if character = '"' then ['\\', '"']
  else if character = '\\' then ['\\', '\\']
  else if character = '\n' then ['\\', 'n']
  else if character = '\r' then ['\\', 'r']
  else if character = '\t' then ['\\', 't']
  else if character.toNat = 0x08 then ['\\', 'b']
  else if character.toNat = 0x0C then ['\\', 'f']
  else if character.toNat < 0x20 then
    ['\\', 'u', '0', '0', hexDigit (character.toNat / 16), hexDigit (character.toNat % 16)]
  else [character]

/-- A quoted text. -/
def quote (content : String) : String :=
  String.ofList ('"' :: content.toList.flatMap quoteCharacter ++ ['"'])

/-- The text of a value that is neither a list nor a mapping. -/
def scalarText : Value -> String
  | .null => "null"
  | .bool true => "true"
  | .bool false => "false"
  | .integer number => Numeral.integerText number
  | .real number => number.text
  | .text content => quote content
  | .list _ | .mapping _ => ""

/-- The quoted form of a key. -/
def keyText : Value -> String
  | .text content => quote content
  | other => quote (scalarText other)

mutual

/-- A value on one line without blanks. -/
def compact : Value -> String
  | .list items => "[" ++ ",".intercalate (compactItems items) ++ "]"
  | .mapping entries => "\x7b" ++ ",".intercalate (compactEntries entries) ++ "\x7d"
  | .null => scalarText .null
  | .bool flag => scalarText (.bool flag)
  | .integer number => scalarText (.integer number)
  | .real number => scalarText (.real number)
  | .text content => scalarText (.text content)

/-- The items of a list on one line. -/
def compactItems : List Value -> List String
  | [] => []
  | item :: rest => compact item :: compactItems rest

/-- The entries of a mapping on one line. -/
def compactEntries : List (Value × Value) -> List String
  | [] => []
  | (key, value) :: rest => (keyText key ++ ":" ++ compact value) :: compactEntries rest

end

/-- The start of a line at a depth. -/
def indentation (depth : Nat) : String := String.ofList (List.replicate (2 * depth) ' ')

/-- Items on lines of their own between two brackets. -/
def block (opening closing : String) (depth : Nat) (items : List String) : String :=
  if items.isEmpty then opening ++ closing
  else
    opening ++ "\n" ++ ",\n".intercalate (items.map (indentation (depth + 1) ++ ·)) ++ "\n" ++
      indentation depth ++ closing

mutual

/-- A value over several lines, each level two blanks further in. -/
def pretty (depth : Nat) : Value -> String
  | .list items => block "[" "]" depth (prettyItems depth items)
  | .mapping entries => block "\x7b" "\x7d" depth (prettyEntries depth entries)
  | .null => scalarText .null
  | .bool flag => scalarText (.bool flag)
  | .integer number => scalarText (.integer number)
  | .real number => scalarText (.real number)
  | .text content => scalarText (.text content)

/-- The items of a list over several lines. -/
def prettyItems (depth : Nat) : List Value -> List String
  | [] => []
  | item :: rest => pretty (depth + 1) item :: prettyItems depth rest

/-- The entries of a mapping over several lines. -/
def prettyEntries (depth : Nat) : List (Value × Value) -> List String
  | [] => []
  | (key, value) :: rest =>
    (keyText key ++ ": " ++ pretty (depth + 1) value) :: prettyEntries depth rest

end

end TopoPlan.Json
