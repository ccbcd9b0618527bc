import TopoPlan.Data.Yaml.Cursor

/-!
# YAML block scalars

The content of a block scalar is the lines that reach past its margin.  A literal
block keeps its line ends; a folded one replaces single line ends between lines
that do not start with a blank.  The head says what becomes of line ends at the end.
-/

namespace TopoPlan.Yaml

/-- What becomes of line ends at the end of a block. -/
inductive Chomping where
  | strip
  | clip
  | keep
  deriving DecidableEq, Inhabited

/-- What the head of a block scalar says. -/
structure BlockHead where
  literal : Bool
  chomping : Option Chomping := none
  /-- Columns of the content past the column of what holds it. -/
  increment : Option Nat := none

/-- Whether a character is a blank of a line. -/
def isLineBlank (character : Char) : Bool := character == ' ' || character == '\t'

/-- Read the rest of the head of a block scalar up to the end of its line. -/
def readHead (head : BlockHead) : List Char -> Option (BlockHead × List Char)
  | [] => some (head, [])
  | '\n' :: rest => some (head, rest)
  | '+' :: rest =>
    if head.chomping.isSome then none
    else readHead { head with chomping := some .keep } rest
  | '-' :: rest =>
    if head.chomping.isSome then none
    else readHead { head with chomping := some .strip } rest
  | character :: rest =>
    if '1' <= character && character <= '9' && head.increment.isNone then
      readHead { head with increment := some (character.toNat - '0'.toNat) } rest
    else if isLineBlank character then
      match rest.dropWhile isLineBlank with
      | [] => some (head, [])
      | '\n' :: rest => some (head, rest)
      | '#' :: rest => some (head, (rest.dropWhile (· != '\n')).drop 1)
      | _ => none
    else none

/-- The number of spaces at the start of a line. -/
def spacesOf (line : List Char) : Nat := (line.takeWhile (· == ' ')).length

/-- Whether a line has spaces only. -/
def isEmptyLine (line : List Char) : Bool := spacesOf line == line.length

/-- The margin that the first lines of a block show: the most spaces up to and with
the first line that has something else, which must not be a tab. -/
def shownMargin (widest : Nat) : List (List Char) -> Option Nat
  | [] => some widest
  | line :: rest =>
    let spaces := spacesOf line
    if isEmptyLine line then shownMargin (max widest spaces) rest
    else if (line.drop spaces).head? == some '\t' then none
    else some (max widest spaces)

/-- The margin of a block that something of the given indentation holds. -/
def marginOf (head : BlockHead) (indent : Int) (lines : List (List Char)) : Option Nat :=
  match head.increment with
  | some increment => some (indent.toNat + increment)
  | none => (shownMargin 0 lines).map fun shown => max shown (max (indent + 1).toNat 1)

/-- Separate the lines of a block from those after it: a line belongs to it if it
reaches past the margin or is empty.  A tab must not stand before the margin. -/
def takeBlock (margin : Nat) : List (List Char) -> Option (List (List Char) × List (List Char))
  | [] => some ([], [])
  | line :: rest =>
    let spaces := spacesOf line
    if isEmptyLine line && spaces <= margin then
      (takeBlock margin rest).map fun parts => ([] :: parts.1, parts.2)
    else if margin <= spaces then
      (takeBlock margin rest).map fun parts => (line.drop margin :: parts.1, parts.2)
    else if (line.drop spaces).head? == some '\t' then none
    else some ([], line :: rest)

/-- Whether a line starts with a blank. -/
def startsBlank (line : List Char) : Bool := line.head?.any isLineBlank

/-- What stands between two lines of a folded block with empty lines between them. -/
def foldedGap (previous : Option (List Char)) (empties : Nat) (line : List Char) : List Char :=
  match previous with
  | none => List.replicate empties '\n'
  | some before =>
    if startsBlank before || startsBlank line then List.replicate (empties + 1) '\n'
    else if empties = 0 then [' ']
    else List.replicate empties '\n'

/-- Join the lines of a folded block. -/
def foldLines (previous : Option (List Char)) (empties : Nat) : List (List Char) -> List Char
  | [] => []
  | [] :: rest => foldLines previous (empties + 1) rest
  | line :: rest => foldedGap previous empties line ++ line ++ foldLines (some line) 0 rest

/-- Join the lines of a literal block. -/
def joinLines (lines : List (List Char)) : List Char := ['\n'].intercalate lines

/-- The content of a block: its lines, whether the last one has a line end, and the
line ends that the head asks for. -/
def blockContent (head : BlockHead) (lines : List (List Char)) (ended : Bool) : List Char :=
  let body := (lines.reverse.dropWhile List.isEmpty).reverse
  let empties := lines.length - body.length
  let joined := if head.literal then joinLines body else foldLines none 0 body
  let lineEnd := if body.isEmpty || !(ended || 0 < empties) then 0 else 1
  match head.chomping.getD .clip with
  | .strip => joined
  | .clip => joined ++ List.replicate lineEnd '\n'
  | .keep => joined ++ List.replicate (lineEnd + empties) '\n'

/-- Read a block scalar from its mark on. -/
def readBlock (indent : Int) (cursor : Cursor) : Option Scanned := do
  let (head, rest) <- readHead { literal := cursor.next? == some '|' } (cursor.rest.drop 1)
  let lines := Text.splitWhere (· == '\n') rest
  let margin <- marginOf head indent lines
  let (taken, left) <- takeBlock margin lines
  let after : Cursor :=
    { rest := joinLines left, line := cursor.line + 1 + taken.length }
  match left, taken.getLast? with
  | [], some [] => pure ⟨blockContent head taken.dropLast true, after⟩
  | [], _ => pure ⟨blockContent head taken false, after⟩
  | _, _ => pure ⟨blockContent head taken true, after⟩

end TopoPlan.Yaml
