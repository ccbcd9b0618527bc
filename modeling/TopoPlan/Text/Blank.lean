/-!
# Blank characters and splitting

A blank character is one with the Unicode property `White_Space`.  Trimming
removes blanks at both ends only, and a split keeps every other character, so
the pieces of a split joined by their separators give the text back.
-/

namespace TopoPlan.Text

/-- The Unicode property `White_Space`. -/
def isBlank (character : Char) : Bool :=
  let code := character.toNat
  (0x09 <= code && code <= 0x0D) || code == 0x20 || code == 0x85 || code == 0xA0 ||
    code == 0x1680 || (0x2000 <= code && code <= 0x200A) || code == 0x2028 ||
    code == 0x2029 || code == 0x202F || code == 0x205F || code == 0x3000

/-- Drop the longest tail whose characters all satisfy the test. -/
def dropTail (test : Char -> Bool) (text : List Char) : List Char :=
  (text.reverse.dropWhile test).reverse

/-- Remove the blanks at both ends. -/
def trimList (text : List Char) : List Char :=
  dropTail isBlank (text.dropWhile isBlank)

/-- Remove the blanks at both ends of a text. -/
def trim (text : String) : String :=
  String.ofList (trimList text.toList)

/-- The pieces between the characters that satisfy the test; there is always one
piece more than there are such characters. -/
def splitWhere (test : Char -> Bool) : List Char -> List (List Char)
  | [] => [[]]
  | character :: rest =>
    match splitWhere test rest with
    | [] => [[character]]
    | piece :: pieces =>
      if test character then [] :: piece :: pieces else (character :: piece) :: pieces

/-- The text before and after the first occurrence of a separator. -/
def splitOnce (separator : Char) : List Char -> Option (List Char × List Char)
  | [] => none
  | character :: rest =>
    if character = separator then some ([], rest)
    else (splitOnce separator rest).map fun parts => (character :: parts.1, parts.2)

/-- The text before and after the first occurrence of a separator. -/
def cutOnce (separator : Char) (text : String) : Option (String × String) :=
  (splitOnce separator text.toList).map fun parts =>
    (String.ofList parts.1, String.ofList parts.2)

/-- What follows the given start of a text, if the text has that start. -/
def afterStart? : List Char -> List Char -> Option (List Char)
  | [], text => some text
  | _ :: _, [] => none
  | expected :: start, character :: text =>
    if expected = character then afterStart? start text else none

/-- What follows the given start of a text, if the text has that start. -/
def after? (start text : String) : Option String :=
  (afterStart? start.toList text.toList).map String.ofList

/-- The lines of a text: each ends at a line feed, a carriage return before it
belongs to the line end, and an empty last line is not a line. -/
def lines (text : List Char) : List (List Char) :=
  let pieces := splitWhere (· == '\n') text
  let ended := pieces.dropLast.map fun line =>
    if line.getLast? == some '\r' then line.dropLast else line
  match pieces.getLast? with
  | none | some [] => ended
  | some last => ended ++ [last]

/-- Lower-case letters for the upper-case letters of ASCII. -/
def lowerAscii (text : String) : String :=
  String.ofList (text.toList.map Char.toLower)

end TopoPlan.Text
