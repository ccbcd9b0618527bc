import TopoPlan.Address.Basic
import TopoPlan.Text.Blank
import TopoPlan.Text.Numeral

/-!
# Written addresses

The four-octet form has decimal octets without leading zeros.  The eight-group
form has hexadecimal groups of up to four digits, at most one `::` for a run of
zero groups, and may end in four octets.  Writing uses lower-case digits, `::`
for the first longest run of at least two zero groups, and octets for addresses
under `::ffff:0:0/96`.
-/

namespace TopoPlan.Address

/-- A reader of a start of a text: a result and what remains. -/
abbrev Reader (α : Type) := List Char -> Option (α × List Char)

/-- The longest start made of digits of a base. -/
def takeDigits (base : Nat) : List Char -> List Nat × List Char
  | [] => ([], [])
  | character :: rest =>
    match Numeral.digit? base character with
    | none => ([], character :: rest)
    | some digit =>
      let (digits, remaining) := takeDigits base rest
      (digit :: digits, remaining)

/-- The number with the given digits. -/
def ofDigits (base : Nat) (digits : List Nat) : Nat :=
  digits.foldl (fun value digit => value * base + digit) 0

/-- A decimal octet: one to three digits, no leading zero, at most 255. -/
def readOctet : Reader Nat := fun text =>
  let (digits, rest) := takeDigits 10 text
  let value := ofDigits 10 digits
  if digits.isEmpty || 3 < digits.length || (digits.head? == some 0 && 1 < digits.length) ||
      255 < value then none
  else some (value, rest)

/-- A hexadecimal group: one to four digits. -/
def readGroup : Reader Nat := fun text =>
  let (digits, rest) := takeDigits 16 text
  if digits.isEmpty || 4 < digits.length then none
  else some (ofDigits 16 digits, rest)

/-- The given character. -/
def readMark (mark : Char) : Reader Unit
  | [] => none
  | character :: rest => if character = mark then some ((), rest) else none

/-- Four octets joined by points, as one number. -/
def readOctets : Reader Nat := fun text => do
  let (first, text) <- readOctet text
  let (_, text) <- readMark '.' text
  let (second, text) <- readOctet text
  let (_, text) <- readMark '.' text
  let (third, text) <- readOctet text
  let (_, text) <- readMark '.' text
  let (fourth, text) <- readOctet text
  pure (((first * 256 + second) * 256 + third) * 256 + fourth, text)

/-- Groups read from the start of a text. -/
structure GroupRun where
  groups : List Nat := []
  /-- The run ends in four octets, which count as two groups. -/
  endsInOctets : Bool := false
  rest : List Char

/-- Read groups joined by colons, at most `room` of them.  A group follows its
colon directly; what cannot be read is left for the caller.  Four octets are read
where two groups still have room. -/
def readGroups (room : Nat) (isFirst : Bool) (text : List Char) : GroupRun :=
  match room with
  | 0 => { rest := text }
  | room + 1 =>
    let start := if isFirst then some text else (readMark ':' text).map (·.2)
    match start with
    | none => { rest := text }
    | some start =>
      match (if room = 0 then none else readOctets start) with
      | some (value, rest) =>
        { groups := [value / 65536, value % 65536], endsInOctets := true, rest }
      | none =>
        match readGroup start with
        | none => { rest := text }
        | some (group, rest) =>
          let run := readGroups room false rest
          { run with groups := group :: run.groups }

/-- The number made of eight groups. -/
def ofGroups (groups : List Nat) : Nat :=
  ofDigits 65536 groups

/-- An address in eight groups, with `::` for a run of at least one zero group. -/
def readEightGroups : Reader Nat := fun text =>
  let head := readGroups 8 true text
  if head.groups.length = 8 then some (ofGroups head.groups, head.rest)
  else if head.endsInOctets then none
  else do
    let (_, text) <- readMark ':' head.rest
    let (_, text) <- readMark ':' text
    let tail := readGroups (7 - head.groups.length) true text
    let zeros := List.replicate (8 - head.groups.length - tail.groups.length) 0
    pure (ofGroups (head.groups ++ zeros ++ tail.groups), tail.rest)

/-- Read a written address; nothing may follow it. -/
def parse? (text : String) : Option Address :=
  let characters := text.toList
  match readOctets characters with
  | some (value, rest) => if rest.isEmpty then ofNat? .v4 value else none
  | none =>
    match readEightGroups characters with
    | some (value, rest) => if rest.isEmpty then ofNat? .v6 value else none
    | none => none

/-- The digits of a number in a base, given how many there are. -/
def digitsOf (base : Nat) : Nat -> Nat -> List Nat
  | 0, _ => []
  | count + 1, value => digitsOf base count (value / base) ++ [value % base]

/-- The four-octet form of a number. -/
def octetText (value : Nat) : String :=
  ".".intercalate ((digitsOf 256 4 value).map Numeral.text)

/-- The text of groups joined by colons. -/
def groupText (groups : List Nat) : String :=
  ":".intercalate (groups.map fun group => String.ofList (Nat.toDigits 16 group))

/-- Number of zero groups at the start. -/
def zeroRun (groups : List Nat) : Nat :=
  (groups.takeWhile (· == 0)).length

/-- Start and length of the first longest run of zero groups. -/
def longestZeroRun (groups : List Nat) : Nat × Nat :=
  (List.range groups.length).foldl
    (fun best start =>
      let length := zeroRun (groups.drop start)
      if best.2 < length then (start, length) else best)
    (0, 0)

/-- The eight-group form of a number. -/
def eightGroupText (value : Nat) : String :=
  let groups := digitsOf 65536 8 value
  if value / 0x100000000 = 0xffff then "::ffff:" ++ octetText (value % 0x100000000)
  else
    let (start, length) := longestZeroRun groups
    if 1 < length then
      groupText (groups.take start) ++ "::" ++ groupText (groups.drop (start + length))
    else groupText groups

/-- The written form of an address. -/
def text (address : Address) : String :=
  match address.family with
  | .v4 => octetText address.value
  | .v6 => eightGroupText address.value

instance : ToString Address := ⟨text⟩

/-- The address of a host: what stands before the first `/`, without blanks. -/
def parseHost? (value : String) : Option Address :=
  parse? (String.ofList (Text.trimList (value.toList.takeWhile (· != '/'))))

end TopoPlan.Address
