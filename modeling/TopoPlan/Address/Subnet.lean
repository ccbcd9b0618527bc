import TopoPlan.Address.Text

/-!
# Subnets

A subnet is a network address and a length.  The bits of the address after the
length are zero, so a subnet is the interval of `2 ^ hostBits` addresses that
starts at its network address.
-/

namespace TopoPlan

/-- A block of addresses that share their first `length` bits. -/
structure Subnet where
  /-- The first address of the block. -/
  network : Address
  length : Nat
  length_le : length <= network.family.width
  aligned : Nat.pow 2 (network.family.width - length) ∣ network.value
  deriving DecidableEq

/-- Why a text or an address and a length give no subnet. -/
inductive SubnetFault where
  | noLength (text : String)
  | notAddress (text : String)
  | notLength (text : String) (fault : Numeral.Fault)
  | tooLong (length width : Nat)
  deriving DecidableEq, Inhabited

namespace Subnet

/-- The text saying that something is not an address. -/
def notAddressText (text : String) : String :=
  s!"'{text}' is not an IP address: invalid IP address syntax"

end Subnet

/-- The wording of a fault. -/
def SubnetFault.message : SubnetFault -> String
  | .noLength text => s!"'{text}' has no prefix length"
  | .notAddress text => Subnet.notAddressText text
  | .notLength text fault => s!"'{text}' is not a prefix length: {fault.message}"
  | .tooLong length width => s!"prefix length {length} exceeds {width} bits"

namespace Subnet

/-- The block of the given length that holds an address. -/
def around (address : Address) (length : Nat) (bound : length <= address.family.width) :
    Subnet where
  network :=
    { family := address.family
      value := address.value - address.value % Nat.pow 2 (address.family.width - length)
      value_lt := Nat.lt_of_le_of_lt (Nat.sub_le _ _) address.value_lt }
  length := length
  length_le := bound
  aligned := Nat.dvd_sub_mod address.value

instance : Inhabited Subnet where
  default := around default 0 (Nat.zero_le _)

/-- The block of the given length that holds an address, for a length that the
family has. -/
def ofAddress (address : Address) (length : Nat) : Except SubnetFault Subnet :=
  if bound : length <= address.family.width then .ok (around address length bound)
  else .error (.tooLong length address.family.width)

/-- Read a subnet: an address, `/` and a length, between blanks. -/
def parse (text : String) : Except SubnetFault Subnet :=
  match Text.cutOnce '/' (Text.trim text) with
  | none => .error (.noLength text)
  | some (addressText, lengthText) =>
    match Address.parse? addressText with
    | none => .error (.notAddress addressText)
    | some address =>
      match Numeral.read 10 256 lengthText.toList with
      | .error fault => .error (.notLength lengthText fault)
      | .ok length => ofAddress address length

/-- The written form of a subnet. -/
def text (subnet : Subnet) : String :=
  s!"{subnet.network.text}/{subnet.length}"

instance : ToString Subnet := ⟨text⟩

/-- Address family of a subnet. -/
def family (subnet : Subnet) : Family := subnet.network.family

/-- Number of address bits of the family. -/
def width (subnet : Subnet) : Nat := subnet.family.width

/-- Number of bits that differ between the addresses of a subnet. -/
def hostBits (subnet : Subnet) : Nat := subnet.width - subnet.length

/-- Number of addresses of a subnet. -/
def size (subnet : Subnet) : Nat := Nat.pow 2 subnet.hostBits

/-- Whether an address lies in a subnet: same family and same leading bits. -/
def contains (subnet : Subnet) (address : Address) : Bool :=
  address.family = subnet.family &&
    address.value - address.value % subnet.size = subnet.network.value

/-- Whether one subnet lies completely in another. -/
def covers (outer inner : Subnet) : Bool :=
  outer.length <= inner.length && outer.contains inner.network

/-- The last address of a subnet, which is the broadcast address of family v4. -/
def broadcast (subnet : Subnet) : Address :=
  Address.ofNat subnet.family (subnet.network.value + (subnet.size - 1))

/-- The order of subnets: by network address, then by length. -/
def compare (left right : Subnet) : Ordering :=
  (left.network.compare right.network).then (Ord.compare left.length right.length)

end Subnet

end TopoPlan
