import TopoPlan.Data.Plain

/-!
# Writing YAML

Block style: a mapping has one entry a line, a list one item a line, nested
mappings stand two blanks further in and a list stands under its key.  A text is
written plain where that reads back as the same text, as a block where it has
several lines, and otherwise between quotes.
-/

namespace TopoPlan.Yaml

/-- The ways to write a text. -/
inductive Style where
  | plain
  | single
  | double
  | literal
  deriving DecidableEq, Inhabited

/-- Characters that end a line. -/
def isBreak (character : Char) : Bool :=
  let code := character.toNat
  code == 0x0A || code == 0x0D || code == 0x85 || code == 0x2028 || code == 0x2029

/-- Whether nothing, a blank or the end of a line stands in a place. -/
def isGap : Option Char -> Bool
  | none => true
  | some character =>
    character == ' ' || character == '\t' || character.toNat == 0 || isBreak character

/-- Characters that need no escape. -/
def isPrintable (character : Char) : Bool :=
  let code := character.toNat
  code == 0x0A || (0x20 <= code && code <= 0x7E) || (0xA0 <= code && code <= 0xD7FF) ||
    (0xE000 <= code && code <= 0xFFFD && code != 0xFEFF) || 0x10000 <= code

/-- Characters with a meaning at the start of a scalar. -/
def indicators : List Char :=
  ['#', ',', '[', ']', '\x7b', '\x7d', '&', '*', '!', '|', '>', '\'', '"', '%', '@', '\x60']

/-- Whether a character has a meaning at the start of a scalar. -/
def isIndicator (character : Char) : Bool := indicators.contains character

/-- Whether two neighboring characters satisfy two tests. -/
def hasPair (first second : Char -> Bool) (text : List Char) : Bool :=
  (text.zip text.tail).any fun pair => first pair.1 && second pair.2

/-- Whether a colon stands before a gap or a `#` after one. -/
def hasInnerIndicator (text : List Char) : Bool :=
  hasPair (· == ':') (fun next => isGap (some next)) text ||
    text.getLast? == some ':' ||
    hasPair (fun previous => isGap (some previous)) (· == '#') text

/-- Whether the start of a text has a meaning of its own. -/
def hasLeadingIndicator (text : List Char) : Bool :=
  match text with
  | [] => false
  | first :: rest =>
    isIndicator first ||
      ((first == '?' || first == ':' || first == '-') && isGap rest.head?) ||
      text.take 3 == ['-', '-', '-'] || text.take 3 == ['.', '.', '.']

/-- Whether a character is a blank between words. -/
def isSpace (character : Char) : Bool := character == ' '

/-- Whether a text may be written without quotes. -/
def allowsPlain (text : List Char) : Bool :=
  let atEnd := fun (place : Option Char) => place.any fun found => isSpace found || isBreak found
  !hasLeadingIndicator text && !hasInnerIndicator text && !text.any isBreak &&
    text.all isPrintable && !atEnd text.head? && !atEnd text.getLast?

/-- Whether a text may be written between single quotes. -/
def allowsSingle (text : List Char) : Bool :=
  text.all isPrintable && !hasPair isSpace isBreak text && !hasPair isBreak isSpace text

/-- Whether a text may be written as a block. -/
def allowsLiteral (text : List Char) : Bool :=
  text.all isPrintable && !hasPair isSpace isBreak text && !text.getLast?.any isSpace

/-- The way in which a text is written. -/
def styleOf (content : String) : Style :=
  let text := content.toList
  let quoted := if allowsSingle text then Style.single else Style.double
  if text.contains '\n' then
    if allowsLiteral text then .literal else .double
  else if Plain.isAmbiguous content then quoted
  else if allowsPlain text then .plain
  else quoted

/-- Digits of an escape. -/
def hexDigits (count value : Nat) : List Char :=
  let digits := (Nat.toDigits 16 value).map Char.toUpper
  List.replicate (count - digits.length) '0' ++ digits

/-- One character between double quotes. -/
def escapeCharacter (character : Char) : List Char :=
  let code := character.toNat
  if character == '"' then ['\\', '"']
  else if character == '\\' then ['\\', '\\']
  else if isPrintable character && !isBreak character then [character]
  else if code == 0x00 then ['\\', '0']
  else if code == 0x07 then ['\\', 'a']
  else if code == 0x08 then ['\\', 'b']
  else if code == 0x09 then ['\\', 't']
  else if code == 0x0A then ['\\', 'n']
  else if code == 0x0B then ['\\', 'v']
  else if code == 0x0C then ['\\', 'f']
  else if code == 0x0D then ['\\', 'r']
  else if code == 0x1B then ['\\', 'e']
  else if code == 0x85 then ['\\', 'N']
  else if code == 0x2028 then ['\\', 'L']
  else if code == 0x2029 then ['\\', 'P']
  else if code <= 0xFF then '\\' :: 'x' :: hexDigits 2 code
  else if code <= 0xFFFF then '\\' :: 'u' :: hexDigits 4 code
  else '\\' :: 'U' :: hexDigits 8 code

/-- A text between double quotes. -/
def doubleQuoted (text : List Char) : String :=
  String.ofList ('"' :: text.flatMap escapeCharacter ++ ['"'])

/-- A text between single quotes. -/
def singleQuoted (text : List Char) : String :=
  String.ofList ('\'' :: text.flatMap (fun character =>
    if character == '\'' then ['\'', '\''] else [character]) ++ ['\''])

/-- The head of a block: the width of its margin where its first line does not show
it, and what happens to the line ends after it. -/
def literalHead (text : List Char) : String :=
  let margin := if text.head?.any (fun first => isSpace first || isBreak first) then "2" else ""
  let ending :=
    match text.reverse with
    | '\n' :: '\n' :: _ | ['\n'] => "+"
    | '\n' :: _ => ""
    | _ => "-"
  "|" ++ margin ++ ending

/-- The lines of a block. -/
def literalLines (text : List Char) : List String :=
  let pieces := (Text.splitWhere (· == '\n') text).map String.ofList
  if text.getLast? == some '\n' then pieces.dropLast else pieces

/-- Put lines two blanks further in; empty lines stay empty. -/
def indent (lines : List String) : List String :=
  lines.map fun line => if line.isEmpty then line else "  " ++ line

/-- Lines that continue a line begun before them. -/
structure Layout where
  /-- What stands on the line begun before. -/
  head : String
  rest : List String

/-- A text as it follows an indicator. -/
def textLayout (content : String) : Layout :=
  let text := content.toList
  match styleOf content with
  | .plain => ⟨content, []⟩
  | .single => ⟨singleQuoted text, []⟩
  | .double => ⟨doubleQuoted text, []⟩
  | .literal => ⟨literalHead text, indent (literalLines text)⟩

/-- A scalar as it follows an indicator. -/
def scalarLayout : Value -> Layout
  | .null => ⟨"null", []⟩
  | .bool true => ⟨"true", []⟩
  | .bool false => ⟨"false", []⟩
  | .integer number => ⟨Numeral.integerText number, []⟩
  | .real number => ⟨number.text, []⟩
  | .text content => textLayout content
  | .list _ => ⟨"[]", []⟩
  | .mapping _ => ⟨"\x7b\x7d", []⟩

/-- The longest key that stands before its value on one line, in bytes. -/
def keyLimit : Nat := 128

/-- The lines of an entry, given those of its value: the key, then the value on the
same line if it is a scalar, and otherwise on the following lines. -/
def entryLines (key : Layout) (value : Value) (lines : List String) : List String :=
  if key.rest.isEmpty && key.head.utf8ByteSize <= keyLimit then
    match value, lines with
    | .mapping (_ :: _), lines => (key.head ++ ":") :: indent lines
    | .list (_ :: _), lines => (key.head ++ ":") :: lines
    | _, [] => [key.head ++ ":"]
    | _, head :: rest => (key.head ++ ": " ++ head) :: rest
  else
    ("? " ++ key.head) :: key.rest ++
      match value, lines with
      | _, [] => [":"]
      | .mapping (_ :: _), head :: rest => (": " ++ head) :: indent rest
      | .list (_ :: _), head :: rest => (": " ++ head) :: indent rest
      | _, head :: rest => (": " ++ head) :: rest

/-- The lines of an item, given those of its value. -/
def itemLines (value : Value) (lines : List String) : List String :=
  match value, lines with
  | _, [] => ["-"]
  | .mapping (_ :: _), head :: rest => ("- " ++ head) :: indent rest
  | .list (_ :: _), head :: rest => ("- " ++ head) :: indent rest
  | _, head :: rest => ("- " ++ head) :: rest

mutual

/-- The lines of a value. -/
def valueLines : Value -> List String
  | .list (item :: rest) => itemsLines (item :: rest)
  | .mapping (entry :: rest) => entriesLines (entry :: rest)
  | scalar =>
    let layout := scalarLayout scalar
    layout.head :: layout.rest

/-- The lines of the items of a list. -/
def itemsLines : List Value -> List String
  | [] => []
  | item :: rest => itemLines item (valueLines item) ++ itemsLines rest

/-- The lines of the entries of a mapping. -/
def entriesLines : List (Value × Value) -> List String
  | [] => []
  | (key, value) :: rest =>
    entryLines (scalarLayout key) value (valueLines value) ++ entriesLines rest

end

/-- A value as a document. -/
def text (value : Value) : String :=
  String.join ((valueLines value).map (· ++ "\n"))

end TopoPlan.Yaml

namespace TopoPlan.Value

/-- The text of a value as a parameter: a scalar as it is, anything else as a
document without blanks at its end. -/
def parameterText : Value -> String
  | .null => ""
  | .bool true => "true"
  | .bool false => "false"
  | .integer number => Numeral.integerText number
  | .real number => number.text
  | .text content => content
  | other => String.ofList (Text.dropTail Text.isBlank (Yaml.text other).toList)

end TopoPlan.Value
