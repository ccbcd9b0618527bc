import TopoPlan.Text.Numeral

/-!
# Comma separated records

A record is a line whose fields are separated by commas.  A field that starts with a
double quote ends at the next double quote that is not doubled; a doubled one stands
for itself.
-/

namespace TopoPlan.Csv

/-- Why a text is not a list of records. -/
inductive Fault where
  | unterminated (line : String)
  | fieldCount (record fields expected : Nat)
  deriving DecidableEq, Inhabited

/-- The wording of a fault. -/
def Fault.message : Fault -> String
  | .unterminated line => s!"unterminated quoted field in line '{line}'"
  | .fieldCount record fields expected =>
    s!"record {record} has {fields} fields, header has {expected}"

/-- The fields of a line from a place inside a field on, whose characters so far are
given in reverse; a quoted field must end. -/
def splitFrom : (quoted : Bool) -> (field : List Char) -> List Char -> Option (List (List Char))
  | true, _, [] => none
  | false, field, [] => some [field.reverse]
  | true, field, '"' :: '"' :: rest => splitFrom true ('"' :: field) rest
  | true, field, '"' :: rest => splitFrom false field rest
  | false, [], '"' :: rest => splitFrom true [] rest
  | false, field, ',' :: rest => (splitFrom false [] rest).map (field.reverse :: ·)
  | quoted, field, character :: rest => splitFrom quoted (character :: field) rest

/-- The fields of a line. -/
def split (line : List Char) : Except Fault (List String) :=
  match splitFrom false [] line with
  | some fields => .ok (fields.map String.ofList)
  | none => .error (.unterminated (String.ofList line))

/-- The records of lines, each with as many fields as there are headers. -/
def records (expected : Nat) (lines : List (List Char)) : Except Fault (List (List String)) :=
  lines.zipIdx.mapM fun entry => do
    let fields <- split entry.1
    if fields.length = expected then pure fields
    else throw (.fieldCount (entry.2 + 1) fields.length expected)

end TopoPlan.Csv
