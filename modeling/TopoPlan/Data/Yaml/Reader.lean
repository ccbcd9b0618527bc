import TopoPlan.Data.Yaml.Block
import TopoPlan.Data.Yaml.Scalar

/-!
# Reading YAML

A YAML text holds one document of block and flow collections and of plain, quoted
and block scalars.  The entries of a block collection start in one column, and what
belongs to an entry stands in later columns.  A text with anchors, aliases, tags, directives,
explicit keys or several documents is refused, like every text that is not well
formed; a reader that knows more of YAML can stand in its place wherever files are read.

Readers take a number of steps.  Every entry of a collection and every opening of
one follows a character of its own, so a few steps for every character are enough.
-/

namespace TopoPlan.Yaml

/-- A part of a document, and the place after it. -/
abbrev Read := Option (Doc × Cursor)

/-- A quoted scalar as a document. -/
def quoted (scanned : Scanned) : Doc × Cursor :=
  (.scalar (.text (String.ofList scanned.content)), scanned.cursor)

/-- A plain scalar as a document. -/
def plain (scanned : Scanned) : Doc × Cursor :=
  (.plain (String.ofList scanned.content), scanned.cursor)

/-- The document of a place where nothing is written. -/
def nothing : Doc := .plain ""

mutual

/-- Read a scalar on lines or a flow collection. -/
def readInline (flow : Bool) (indent : Int) : (steps : Nat) -> Cursor -> Read
  | 0, _ => none
  | steps + 1, cursor =>
    match cursor.next? with
    | some '\'' => (readSingle steps (cursor.advance 1)).map quoted
    | some '"' => (readDouble steps (cursor.advance 1)).map quoted
    | some '[' => do
      let (items, after) <- readItems indent steps (cursor.advance 1)
      pure (.list false items, after)
    | some '\x7b' => do
      let (entries, after) <- readEntries indent steps (cursor.advance 1)
      pure (.mapping entries, after)
    | _ =>
      if startsPlain flow cursor then (readPlain flow indent steps cursor).map plain else none

/-- Read what follows a colon in a flow collection. -/
def readFlowValue (indent : Int) : (steps : Nat) -> Cursor -> Read
  | 0, _ => none
  | steps + 1, start =>
    let cursor := start.skip true
    if [some ',', some ']', some '\x7d'].contains cursor.next? then some (nothing, cursor)
    else if cursor.atMark then none
    else readInline true indent steps cursor

/-- Read the items of a flow sequence from after its bracket or a comma on. -/
def readItems (indent : Int) : (steps : Nat) -> Cursor -> Option (List Doc × Cursor)
  | 0, _ => none
  | steps + 1, start => do
    let cursor := start.skip true
    if cursor.atMark then none
    else if cursor.next? == some ']' then pure ([], cursor.advance 1)
    else
      let (key, after) <- readInline true indent steps cursor
      let (item, after) <-
        match Cursor.colon? true cursor after with
        | none => pure (key, after)
        | some colon => do
          let (value, after) <- readFlowValue indent steps (colon.advance 1)
          pure (.mapping [(key, value)], after)
      let next := after.skip true
      match next.next? with
      | some ',' => do
        let (items, after) <- readItems indent steps (next.advance 1)
        pure (item :: items, after)
      | some ']' => pure ([item], next.advance 1)
      | _ => none

/-- Read the entries of a flow mapping from after its brace or a comma on. -/
def readEntries (indent : Int) : (steps : Nat) -> Cursor -> Option (List (Doc × Doc) × Cursor)
  | 0, _ => none
  | steps + 1, start => do
    let cursor := start.skip true
    if cursor.atMark then none
    else if cursor.next? == some '\x7d' then pure ([], cursor.advance 1)
    else
      let (key, after) <- readInline true indent steps cursor
      let (value, after) <-
        match Cursor.colon? true cursor after with
        | none => pure (nothing, after)
        | some colon => readFlowValue indent steps (colon.advance 1)
      let next := after.skip true
      match next.next? with
      | some ',' => do
        let (entries, after) <- readEntries indent steps (next.advance 1)
        pure ((key, value) :: entries, after)
      | some '\x7d' => pure ([(key, value)], next.advance 1)
      | _ => none

end

/-- Whether nothing is written for an entry of the given indentation.  The entries of
a sequence that is the value of a mapping may stand in the column of the key. -/
def isLeftOut (indent : Int) (afterColon : Bool) (cursor : Cursor) : Bool :=
  cursor.rest.isEmpty || cursor.atMark || cursor.column < indent ||
    (cursor.column == indent && !(afterColon && cursor.atEntry))

mutual

/-- Read a node of block context. -/
def readNode (indent : Int) (afterColon : Bool) : (steps : Nat) -> Cursor -> Read
  | 0, _ => none
  | steps + 1, start => do
    let cursor := start.skip false
    if isLeftOut indent afterColon cursor then pure (nothing, cursor)
    else if cursor.atEntry then
      if cursor.fresh then do
        let (items, after) <- readSequence cursor.column steps cursor
        pure (.list false items, after)
      else none
    else if cursor.next? == some '|' || cursor.next? == some '>' then
      (readBlock indent cursor).map quoted
    else do
      let (key, after) <- readInline false indent steps cursor
      match Cursor.colon? false cursor after with
      | none => pure (key, after)
      | some colon =>
        if cursor.fresh then do
          let (entries, after) <- readMapping cursor.column steps key colon
          pure (.mapping entries, after)
        else none

/-- Read the entries of a block sequence in a column from a dash on. -/
def readSequence (column : Nat) : (steps : Nat) -> Cursor -> Option (List Doc × Cursor)
  | 0, _ => none
  | steps + 1, cursor => do
    let (item, after) <- readNode column false steps { cursor.advance 1 with fresh := true }
    let next := after.skip false
    if next.column == column && next.atEntry && !next.atMark then do
      let (items, after) <- readSequence column steps next
      pure (item :: items, after)
    else if next.rest.isEmpty || next.column <= column then pure ([item], next)
    else none

/-- Read the entries of a block mapping in a column from a key and its colon on. -/
def readMapping (column : Nat) : (steps : Nat) -> Doc -> Cursor ->
    Option (List (Doc × Doc) × Cursor)
  | 0, _, _ => none
  | steps + 1, key, colon => do
    let (value, after) <- readNode column true steps (colon.advance 1)
    let next := after.skip false
    if next.rest.isEmpty || next.column < column || next.atMark then
      pure ([(key, value)], next)
    else if next.column == column then do
      let (nextKey, afterKey) <- readInline false column steps next
      let nextColon <- Cursor.colon? false next afterKey
      let (entries, after) <- readMapping column steps nextKey nextColon
      pure ((key, value) :: entries, after)
    else none

end

/-- Whether a text may hold a character. -/
def isAllowed (character : Char) : Bool :=
  let code := character.toNat
  code == 0x09 || code == 0x0A || (0x20 <= code && code <= 0x7E) ||
    (0xA0 <= code && code <= 0xD7FF) ||
    (0xE000 <= code && code <= 0xFFFD && code != 0xFEFF) || 0x10000 <= code

/-- Write every line end as a line feed. -/
def unifyLineEnds : List Char -> List Char
  | [] => []
  | '\r' :: '\n' :: rest => '\n' :: unifyLineEnds rest
  | character :: rest =>
    (if character == '\r' || character == '\x85' then '\n' else character) :: unifyLineEnds rest

/-- The characters of a text without a byte order mark. -/
def characters? (text : String) : Option (List Char) :=
  let content := text.toList
  let content := if content.head? == some '\uFEFF' then content.drop 1 else content
  let content := unifyLineEnds content
  if content.all isAllowed then some content else none

/-- The place after the line that starts a document, where there is one. -/
def enter (cursor : Cursor) : Cursor :=
  if cursor.isAt Cursor.startMark then cursor.advance 3 else cursor

/-- Whether nothing follows a document but perhaps the line that ends it. -/
def isOver (cursor : Cursor) : Bool :=
  let next := cursor.skip false
  next.rest.isEmpty ||
    (next.isAt Cursor.endMark && ((next.advance 3).skip false).rest.isEmpty)

/-- How many collections may stand inside each other. -/
def depthLimit : Nat := 128

/-- Read the document of a text, which must not be nested too deeply. -/
def read? (text : String) : Option Doc := do
  let content <- characters? text
  let start : Cursor := { rest := content }
  let (doc, after) <- readNode (-1) false (4 * content.length + 8) (enter (start.skip false))
  if isOver after && doc.depth <= depthLimit then pure doc else none

end TopoPlan.Yaml
