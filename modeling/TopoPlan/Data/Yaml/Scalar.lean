import TopoPlan.Data.Yaml.Cursor

/-!
# YAML scalars on lines

Plain scalars and scalars between quotes.  Line ends inside them are folded: one
becomes a blank, and of several one is dropped.

Readers take a number of steps that bounds the characters they read.
-/

namespace TopoPlan.Yaml

/-- Characters that structure flow collections. -/
def isFlowIndicator (character : Char) : Bool :=
  [',', '[', ']', '\x7b', '\x7d'].contains character

/-- Characters that start something else than a plain scalar. -/
def isReservedStart (character : Char) : Bool :=
  isFlowIndicator character ||
    ['-', '?', ':', '#', '&', '*', '!', '|', '>', '\'', '"', '%', '@', '\x60'].contains character

/-- Whether a plain scalar starts here. -/
def startsPlain (flow : Bool) (cursor : Cursor) : Bool :=
  match cursor.next? with
  | none => false
  | some character =>
    if isBoundary (some character) then false
    else if character == '-' then !isBoundary cursor.afterNext?
    else if character == '?' || character == ':' then !flow && !isBoundary cursor.afterNext?
    else !isReservedStart character

/-- The characters of a plain scalar up to a blank, a colon before a boundary or, in
flow context, an indicator. -/
def readWord (flow : Bool) : List Char -> Option (List Char)
  | [] => some []
  | character :: rest =>
    if isBoundary (some character) then some []
    else if character == ':' && isBoundary rest.head? then some []
    else if flow && character == ':' &&
        rest.head?.any (fun next => isFlowIndicator next || next == '?') then none
    else if flow && isFlowIndicator character then some []
    else (readWord flow rest).map (character :: ·)

/-- Whether a plain scalar continues after a gap. -/
def continuesPlain (flow : Bool) (indent : Int) (cursor : Cursor) : Bool :=
  !cursor.atMark && cursor.next? != some '#' && (flow || indent < cursor.column)

/-- Read a plain scalar inside a collection of the given indentation, from the start
of a word on. -/
def readPlain (flow : Bool) (indent : Int) : (steps : Nat) -> Cursor -> Option Scanned
  | 0, _ => none
  | steps + 1, cursor => do
    let word <- readWord flow cursor.rest
    let gap <- Gap.read? (indent + 1) (cursor.advance word.length)
    if gap.isEmpty || !continuesPlain flow indent gap.cursor then pure ⟨word, gap.cursor⟩
    else
      let following <- readPlain flow indent steps gap.cursor
      if following.content.isEmpty then pure ⟨word, gap.cursor⟩
      else pure (following.after (word ++ gap.folded))

/-- Read a scalar between single quotes, from after the first quote on. -/
def readSingle : (steps : Nat) -> Cursor -> Option Scanned
  | 0, _ => none
  | steps + 1, cursor =>
    if cursor.atMark then none
    else
      match cursor.rest with
      | [] => none
      | '\'' :: '\'' :: _ => do
        let following <- readSingle steps (cursor.advance 2)
        pure (following.after ['\''])
      | '\'' :: _ => some ⟨[], cursor.advance 1⟩
      | character :: _ =>
        if isBoundary (some character) then do
          let gap <- Gap.read? 0 cursor
          let following <- readSingle steps gap.cursor
          pure (following.after gap.folded)
        else do
          let following <- readSingle steps (cursor.advance 1)
          pure (following.after [character])

/-- The characters of one-letter escapes. -/
def escapes : List (Char × Nat) :=
  [('0', 0x00), ('a', 0x07), ('b', 0x08), ('t', 0x09), ('\t', 0x09), ('n', 0x0A), ('v', 0x0B),
    ('f', 0x0C), ('r', 0x0D), ('e', 0x1B), (' ', 0x20), ('"', 0x22), ('/', 0x2F), ('\\', 0x5C),
    ('N', 0x85), ('_', 0xA0), ('L', 0x2028), ('P', 0x2029)]

/-- The number of digits of an escape by code. -/
def escapeWidth? : Char -> Option Nat
  | 'x' => some 2
  | 'u' => some 4
  | 'U' => some 8
  | _ => none

/-- The character of an escape after its mark, and the length of the escape. -/
def readEscape? (mark : Char) (rest : List Char) : Option (Char × Nat) :=
  match escapes.lookup mark with
  | some code => some (Char.ofNat code, 2)
  | none => do
    let width <- escapeWidth? mark
    let digits := rest.take width
    if digits.length != width then none
    else
      let code <- Plain.digits? 16 digits
      if code.isValidChar then pure (Char.ofNat code, width + 2) else none

/-- Read a scalar between double quotes, from after the first quote on. -/
def readDouble : (steps : Nat) -> Cursor -> Option Scanned
  | 0, _ => none
  | steps + 1, cursor =>
    if cursor.atMark then none
    else
      match cursor.rest with
      | [] => none
      | '"' :: _ => some ⟨[], cursor.advance 1⟩
      | '\\' :: '\n' :: _ => do
        let gap <- Gap.read? 0 (cursor.advance 1)
        let following <- readDouble steps gap.cursor
        pure (following.after (List.replicate (gap.breaks - 1) '\n'))
      | '\\' :: mark :: rest => do
        let (character, length) <- readEscape? mark rest
        let following <- readDouble steps (cursor.advance length)
        pure (following.after [character])
      | character :: _ =>
        if isBoundary (some character) then do
          let gap <- Gap.read? 0 cursor
          let following <- readDouble steps gap.cursor
          pure (following.after gap.folded)
        else do
          let following <- readDouble steps (cursor.advance 1)
          pure (following.after [character])

end TopoPlan.Yaml
