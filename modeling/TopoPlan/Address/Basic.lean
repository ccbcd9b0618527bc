/-!
# Addresses

An address is a number together with its family.  The number of bits of the
family bounds the number, so every address has exactly one form.
-/

namespace TopoPlan

/-- Address families. -/
inductive Family where
  | v4
  | v6
  deriving DecidableEq, Inhabited

namespace Family

/-- Number of bits of an address. -/
def width : Family -> Nat
  | .v4 => 32
  | .v6 => 128

/-- Families in the order in which addresses are listed. -/
def rank : Family -> Nat
  | .v4 => 0
  | .v6 => 1

end Family

/-- An address of one family. -/
structure Address where
  family : Family
  value : Nat
  value_lt : value < Nat.pow 2 family.width
  deriving DecidableEq

namespace Address

instance : Inhabited Address where
  default := ⟨.v4, 0, by decide⟩

/-- The address with the given number, reduced to the bits of the family. -/
def ofNat (family : Family) (value : Nat) : Address :=
  ⟨family, value % Nat.pow 2 family.width, Nat.mod_lt _ (Nat.two_pow_pos _)⟩

/-- The address with the given number, if the family has one. -/
def ofNat? (family : Family) (value : Nat) : Option Address :=
  if bound : value < Nat.pow 2 family.width then some ⟨family, value, bound⟩ else none

/-- The following address, unless this is the last one of its family. -/
def next? (address : Address) : Option Address :=
  ofNat? address.family (address.value + 1)

/-- The order of addresses: by family, then by number. -/
def compare (left right : Address) : Ordering :=
  (Ord.compare left.family.rank right.family.rank).then (Ord.compare left.value right.value)

end Address

end TopoPlan
