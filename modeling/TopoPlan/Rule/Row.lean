import TopoPlan.Text.Blank
import TopoPlan.Text.Numeral
import TopoPlan.Text.Table

/-!
# Rows

A row is one record of a source: values by field.  Derived fields are made from
templates, in which a field name between double braces stands for the value of that
field.
-/

namespace TopoPlan

/-- One record of a source. -/
abbrev Row := Table String

namespace Row

/-- The field that holds the position of a row. -/
def indexField : String := "index"

/-- The field that holds the value of a row with one value. -/
def valueField : String := "value"

/-- A row with its position. -/
def indexed (index : Nat) (row : Row) : Row :=
  row.insert indexField (Numeral.text index)

/-- A row with one value. -/
def single (value : String) (index : Nat) : Row :=
  indexed index (({} : Row).insert valueField value)

/-- Number rows from zero. -/
def number (rows : List Row) : List Row :=
  rows.zipIdx.map fun entry => indexed entry.2 entry.1

/-- Characters of a field name in a reference. -/
def isKeyCharacter (character : Char) : Bool :=
  character.isAlphanum || character == '_'

/-- The field name of a reference at the start of a text, and what follows it: two
opening braces, a name between optional blanks and after an optional point, and two
closing braces. -/
def reference? (text : List Char) : Option (String × List Char) :=
  match text with
  | '\x7b' :: '\x7b' :: rest =>
    let rest := rest.dropWhile Text.isBlank
    let rest := if rest.head? == some '.' then rest.drop 1 else rest
    let key := rest.takeWhile isKeyCharacter
    match (rest.dropWhile isKeyCharacter).dropWhile Text.isBlank with
    | '\x7d' :: '\x7d' :: after => if key.isEmpty then none else some (String.ofList key, after)
    | _ => none
  | _ => none

/-- Replace the references of a template from left to right, looking at no more than
`steps` places; replaced text is not looked at again. -/
def expandWithin (row : Row) : (steps : Nat) -> List Char -> List Char
  | 0, text => text
  | _ + 1, [] => []
  | steps + 1, character :: rest =>
    match reference? (character :: rest) with
    | some (key, after) => (row.getD key "").toList ++ expandWithin row steps after
    | none => character :: expandWithin row steps rest

/-- Replace the references of a template; an unknown field has the empty text. -/
def expand (row : Row) (template : String) : String :=
  String.ofList (expandWithin row template.length template.toList)

/-- Add the derived fields of templates, all made from the row as it is. -/
def derive (formats : Table String) (row : Row) : Row :=
  row.setAll (formats.toList.map fun entry => (entry.1, row.expand entry.2))

end Row

end TopoPlan
