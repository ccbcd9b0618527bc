import TopoPlan.Data.Doc

/-!
# Places in a YAML text

A place knows its line and column, because the columns of a YAML text say what
belongs together.  What separates tokens is skipped here: blanks, line ends and
comments.
-/

namespace TopoPlan.Yaml

/-- A place in a text. -/
structure Cursor where
  rest : List Char
  line : Nat := 0
  column : Nat := 0
  /-- A block collection may start here: at the start of a line or after `-`. -/
  fresh : Bool := true
  deriving Inhabited

/-- Whether nothing, a blank or the end of a line stands in a place. -/
def isBoundary : Option Char -> Bool
  | none => true
  | some character => character == ' ' || character == '\t' || character == '\n'

namespace Cursor

/-- The place after some characters of the same line that start no collection. -/
def advance (cursor : Cursor) (count : Nat) : Cursor :=
  { cursor with rest := cursor.rest.drop count, column := cursor.column + count, fresh := false }

/-- The next character. -/
def next? (cursor : Cursor) : Option Char := cursor.rest.head?

/-- The character after the next one. -/
def afterNext? (cursor : Cursor) : Option Char := (cursor.rest.drop 1).head?

/-- Whether a line starts with a mark of three characters. -/
def isAt (cursor : Cursor) (mark : String) : Bool :=
  cursor.column == 0 && cursor.rest.take 3 == mark.toList && isBoundary (cursor.rest.drop 3).head?

/-- The line that starts a document. -/
def startMark : String := "---"

/-- The line that ends a document. -/
def endMark : String := "..."

/-- Whether a line that starts or ends a document follows. -/
def atMark (cursor : Cursor) : Bool := cursor.isAt startMark || cursor.isAt endMark

/-- Leave out blanks, comments and line ends.  In block context a tab counts as a
blank only where no collection may start. -/
def skipFrom (flow comment fresh : Bool) (line column : Nat) : List Char -> Cursor
  | [] => { rest := [], line, column, fresh }
  | '\n' :: rest => skipFrom flow false (fresh || !flow) (line + 1) 0 rest
  | character :: rest =>
    if comment || character == '#' then skipFrom flow true fresh line (column + 1) rest
    else if character == ' ' || (character == '\t' && (flow || !fresh)) then
      skipFrom flow false fresh line (column + 1) rest
    else { rest := character :: rest, line, column, fresh }

/-- The place of the next token. -/
def skip (flow : Bool) (cursor : Cursor) : Cursor :=
  skipFrom flow false cursor.fresh cursor.line cursor.column cursor.rest

/-- Whether an entry of a block sequence starts here. -/
def atEntry (cursor : Cursor) : Bool :=
  cursor.next? == some '-' && isBoundary cursor.afterNext?

/-- The place of the colon after a key that starts and ends on one line. -/
def colon? (flow : Bool) (start after : Cursor) : Option Cursor :=
  let colon := after.skip flow
  if colon.line == start.line && colon.next? == some ':' &&
      (flow || isBoundary colon.afterNext?) then some colon
  else none

end Cursor

/-- Blanks and line ends between two words of a scalar. -/
structure Gap where
  /-- The blanks before the first line end. -/
  blanks : List Char := []
  /-- The number of line ends. -/
  breaks : Nat := 0
  /-- The place after the gap. -/
  cursor : Cursor

namespace Gap

/-- Whether there is nothing between the words. -/
def isEmpty (gap : Gap) : Bool := gap.blanks.isEmpty && gap.breaks = 0

/-- Read on from a gap.  After a line end, no tab may stand before the margin. -/
def readFrom (margin : Int) (blanks : List Char) (breaks line column : Nat) (fresh : Bool) :
    List Char -> Option Gap
  | [] => some { blanks, breaks, cursor := { rest := [], line, column, fresh } }
  | character :: rest =>
    if character == '\n' then readFrom margin blanks (breaks + 1) (line + 1) 0 true rest
    else if character == '\t' && breaks != 0 && column < margin then none
    else if character == ' ' || character == '\t' then
      let blanks := if breaks = 0 then blanks ++ [character] else blanks
      readFrom margin blanks breaks line (column + 1) fresh rest
    else some { blanks, breaks, cursor := { rest := character :: rest, line, column, fresh } }

/-- Read a gap. -/
def read? (margin : Int) (cursor : Cursor) : Option Gap :=
  readFrom margin [] 0 cursor.line cursor.column false cursor.rest

/-- What a gap folds to: its blanks where no line ends, a blank for one line end, and
one line end less for several. -/
def folded (gap : Gap) : List Char :=
  match gap.breaks with
  | 0 => gap.blanks
  | 1 => [' ']
  | breaks + 1 => List.replicate breaks '\n'

end Gap

/-- A scalar as read, and the place after it. -/
structure Scanned where
  content : List Char
  cursor : Cursor

/-- Put characters before a scalar. -/
def Scanned.after (scanned : Scanned) (start : List Char) : Scanned :=
  { scanned with content := start ++ scanned.content }

end TopoPlan.Yaml
