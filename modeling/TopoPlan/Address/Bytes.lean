import TopoPlan.Address.Basic
import TopoPlan.Text.Numeral

/-!
# Addresses as bytes

The big-endian byte form of an address, with addition and subtraction carried
out byte by byte.  The number read from the bytes is what these operations are
about: addition wraps at the length of the string and says whether it did.
-/

namespace TopoPlan.Bytes

/-- The number written by bytes, the first byte being the most significant. -/
def toNat (bytes : List UInt8) : Nat :=
  bytes.foldl (fun value byte => value * 256 + byte.toNat) 0

/-- Add a number to bytes listed from the least significant one.  The second
component is what is left over past the last byte. -/
def addReversed : List UInt8 -> Nat -> List UInt8 × Nat
  | [], offset => ([], offset)
  | byte :: rest, offset =>
    let sum := byte.toNat + offset % 256
    let (bytes, remaining) := addReversed rest (offset / 256 + sum / 256)
    (UInt8.ofNat (sum % 256) :: bytes, remaining)

/-- Add a number to a byte string of fixed length, and tell whether the sum fits. -/
def add (bytes : List UInt8) (offset : Nat) : List UInt8 × Bool :=
  let (reversed, remaining) := addReversed bytes.reverse offset
  (reversed.reverse, remaining == 0)

/-- Subtract bytes listed from the least significant one, with a borrow. -/
def subtractReversed : List UInt8 -> List UInt8 -> Nat -> List UInt8 × Nat
  | left :: lefts, right :: rights, borrow =>
    let taken := right.toNat + borrow
    if taken <= left.toNat then
      let (bytes, remaining) := subtractReversed lefts rights 0
      (UInt8.ofNat (left.toNat - taken) :: bytes, remaining)
    else
      let (bytes, remaining) := subtractReversed lefts rights 1
      (UInt8.ofNat (left.toNat + 256 - taken) :: bytes, remaining)
  | _, _, borrow => ([], borrow)

/-- The difference of two byte strings of one length of at most sixteen, unless
it is negative. -/
def difference? (left right : List UInt8) : Option Nat :=
  if left.length != right.length || 16 < left.length then none
  else
    let (reversed, borrow) := subtractReversed left.reverse right.reverse 0
    if borrow = 0 then some (toNat reversed.reverse) else none

/-- The bytes of a number, given how many there are. -/
def ofNat : Nat -> Nat -> List UInt8
  | 0, _ => []
  | count + 1, value => ofNat count (value / 256) ++ [UInt8.ofNat (value % 256)]

/-- The byte form of an address. -/
def ofAddress (address : Address) : List UInt8 :=
  ofNat (address.family.width / 8) address.value

/-- The address with the given bytes: four for one family, sixteen for the other. -/
def toAddress? (bytes : List UInt8) : Option Address :=
  if bytes.length = 4 then Address.ofNat? .v4 (toNat bytes)
  else if bytes.length = 16 then Address.ofNat? .v6 (toNat bytes)
  else none

/-- The bytes written as pairs of hexadecimal digits. -/
def ofHex? : List Char -> Option (List UInt8)
  | [] => some []
  | [_] => none
  | high :: low :: rest => do
    let high <- Numeral.digit? 16 high
    let low <- Numeral.digit? 16 low
    let bytes <- ofHex? rest
    pure (UInt8.ofNat (high * 16 + low) :: bytes)

/-- Bytes as pairs of lower-case hexadecimal digits. -/
def hex (bytes : List UInt8) : String :=
  String.ofList (bytes.flatMap fun byte =>
    [Nat.digitChar (byte.toNat / 16), Nat.digitChar (byte.toNat % 16)])

end TopoPlan.Bytes
