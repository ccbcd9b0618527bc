import Mathlib.Order.Bounds.Defs
import TopoPlan.Proofs.Address.BitMasks
import TopoPlan.Proofs.Address.Intervals

/-!
# Subnets by their bits

A subnet is made by masking an address, an address is held by a subnet when masking it gives the
network address, and the broadcast address has all other bits set.  `MaskedInterval` gathers what
this means for numbers and sets of addresses, and `maskedInterval_of_ofAddress` is that it holds
for every address and every length of its family.
-/

namespace TopoPlan.Subnet

/-- What an address and a length make of a subnet. -/
structure MaskedInterval (address : Address) (length : Nat) (subnet : Subnet) : Prop where
  family_eq : subnet.family = address.family
  length_eq : subnet.length = length
  /-- The network address is the address rounded down to a multiple of the size. -/
  network : IsGreatest {value | 2 ^ subnet.hostBits ∣ value ∧ value ≤ address.value}
    subnet.network.value
  /-- The broadcast address is the last one of as many. -/
  broadcast : subnet.broadcast.family = subnet.family ∧
    subnet.broadcast.value = subnet.network.value + 2 ^ subnet.hostBits - 1
  /-- The subnet holds the addresses between the two. -/
  contains_iff : ∀ other : Address, subnet.contains other = true ↔ other.family = subnet.family ∧
    subnet.network.value ≤ other.value ∧ other.value ≤ subnet.broadcast.value
  /-- The subnet covers those that hold no other addresses. -/
  covers_iff : ∀ inner : Subnet, subnet.covers inner = true ↔
    ∀ other, inner.contains other = true → subnet.contains other = true
  /-- Subnets of one family are nested or share no address. -/
  nested : ∀ other : Subnet, other.family = subnet.family →
    subnet.covers other = true ∨ other.covers subnet = true ∨ ¬ subnet.Meets other
  /-- The network address is made bit by bit from the bytes of the address. -/
  masked : Bytes.mask (Bytes.ofAddress address) length = Bytes.ofAddress subnet.network
  /-- The broadcast address is made bit by bit from the bytes of the network address. -/
  filled : Bytes.fill (Bytes.ofAddress subnet.network) length = Bytes.ofAddress subnet.broadcast
  /-- The test for an address compares its first bits. -/
  compared : ∀ other : Address, subnet.contains other =
    (decide (other.family = subnet.family) &&
      Bytes.mask (Bytes.ofAddress other) length == Bytes.ofAddress subnet.network)

variable {subnet outer inner : Subnet} {address : Address} {length : Nat}

/-! ## Bytes -/

/-- Bytes of one family that stand for the number of an address are those of the address. -/
theorem eq_ofAddress {bytes : List UInt8}
    (lengths : bytes.length = (Bytes.ofAddress address).length) :
    bytes = Bytes.ofAddress address ↔ Bytes.toNat bytes = address.value := by
  rw [← Bytes.toNat_ofAddress address]
  exact ⟨congrArg Bytes.toNat, Bytes.eq_of_toNat_eq lengths⟩

/-- The bytes of an address have as many bits as its family is wide. -/
theorem bits_ofAddress (address : Address) :
    8 * (Bytes.ofAddress address).length = address.family.width := by
  rw [Bytes.length_ofAddress]
  cases address.family <;> rfl

/-- The length and the host bits are all bits of an address of the family. -/
theorem length_add_hostBits (family : address.family = subnet.family) :
    subnet.length + subnet.hostBits = 8 * (Bytes.ofAddress address).length := by
  have bound := subnet.length_le_width
  rw [bits_ofAddress, family, hostBits, width]
  exact Nat.add_sub_cancel' bound

/-- Masking the bytes of an address rounds its number down. -/
theorem toNat_mask_ofAddress (family : address.family = subnet.family) :
    Bytes.toNat (Bytes.mask (Bytes.ofAddress address) subnet.length) =
      address.value - address.value % subnet.size := by
  rw [Bytes.toNat_mask (length_add_hostBits family), Bytes.toNat_ofAddress, ← size_eq,
    ← Nat.sub_eq_of_eq_add (Nat.div_add_mod address.value subnet.size).symm]

/-- An address is held by a subnet when its first bits are those of the network address. -/
theorem contains_eq_mask (subnet : Subnet) (address : Address) :
    subnet.contains address = (decide (address.family = subnet.family) &&
      Bytes.mask (Bytes.ofAddress address) subnet.length == Bytes.ofAddress subnet.network) := by
  by_cases family : address.family = subnet.family
  case neg => simp [contains, family]
  case pos =>
    have lengths : (Bytes.mask (Bytes.ofAddress address) subnet.length).length =
        (Bytes.ofAddress subnet.network).length := by
      rw [Bytes.length_mask, Bytes.length_ofAddress, Bytes.length_ofAddress, family]
      rfl
    rw [Bool.eq_iff_iff, contains, Bool.and_eq_true, Bool.and_eq_true, beq_iff_eq,
      eq_ofAddress lengths, toNat_mask_ofAddress family, decide_eq_true_eq, decide_eq_true_eq]

/-- Setting all bits after the length gives the broadcast address. -/
theorem fill_ofAddress (subnet : Subnet) :
    Bytes.fill (Bytes.ofAddress subnet.network) subnet.length =
      Bytes.ofAddress subnet.broadcast := by
  have lengths : (Bytes.fill (Bytes.ofAddress subnet.network) subnet.length).length =
      (Bytes.ofAddress subnet.broadcast).length := by
    rw [Bytes.length_fill, Bytes.length_ofAddress, Bytes.length_ofAddress]
    rfl
  rw [eq_ofAddress lengths, Bytes.toNat_fill (length_add_hostBits rfl), Bytes.toNat_ofAddress,
    value_broadcast, ← size_eq, Nat.mul_div_cancel' subnet.size_dvd_value]

/-! ## Numbers and sets of addresses -/

/-- The network address is the last one, not after a held address, that starts a block of
this size. -/
theorem isGreatest_network (inside : subnet.contains address = true) :
    IsGreatest {value | 2 ^ subnet.hostBits ∣ value ∧ value ≤ address.value}
      subnet.network.value := by
  obtain ⟨_, low, high⟩ := Subnet.contains_iff.mp inside
  refine ⟨⟨subnet.size_dvd_value, low⟩, ?_⟩
  rintro value ⟨divides, below⟩
  by_contra later
  have next := add_le_of_dvd (Nat.not_le.mp later) subnet.size_dvd_value divides
  omega

/-- The broadcast address of a subnet is inside it. -/
theorem contains_broadcast (subnet : Subnet) : subnet.contains subnet.broadcast = true := by
  have positive := subnet.size_pos
  have last := subnet.value_broadcast
  exact Subnet.contains_iff.mpr ⟨rfl, by omega, by omega⟩

/-- One subnet covers another when it holds all addresses of it. -/
theorem covers_iff_forall :
    outer.covers inner = true ↔
      ∀ address, inner.contains address = true → outer.contains address = true := by
  constructor
  · exact fun covers _ => contains_of_covers covers
  · intro holds
    have first := Subnet.contains_iff.mp (holds _ inner.contains_network)
    have last := Subnet.contains_iff.mp (holds _ inner.contains_broadcast)
    have positive := inner.size_pos
    rw [value_broadcast] at last
    exact Subnet.covers_iff.mpr ⟨first.1, first.2.1, by omega⟩

/-- The subnet that is made of an address and a length is an interval, and bit by bit the same
one is found. -/
theorem maskedInterval_of_ofAddress (made : ofAddress address length = .ok subnet) :
    MaskedInterval address length subnet := by
  obtain ⟨inside, rfl⟩ := contains_of_ofAddress made
  obtain ⟨family, low, high⟩ := Subnet.contains_iff.mp inside
  have positive := subnet.size_pos
  have last : subnet.broadcast.value = subnet.network.value + 2 ^ subnet.hostBits - 1 := by
    rw [value_broadcast, size_eq, Nat.add_sub_assoc (Nat.one_le_two_pow)]
  refine ⟨family.symm, rfl, isGreatest_network inside, ⟨rfl, last⟩, fun other => ?_,
    fun inner => covers_iff_forall, fun other same => ?_, ?_, fill_ofAddress subnet,
    contains_eq_mask subnet⟩
  · rw [Subnet.contains_iff, last, ← size_eq, Nat.le_sub_one_iff_lt (by omega)]
  · by_cases meets : subnet.Meets other
    · exact (covers_or_covers_of_meets meets).imp_right .inl
    · exact .inr (.inr meets)
  · have compared := contains_eq_mask subnet address
    rw [inside] at compared
    exact eq_of_beq (Bool.and_eq_true .. ▸ compared.symm).2

/-- A length that ends within a byte. -/
theorem maskedInterval_within_byte :
    let address := Address.ofNat .v4 0x0AFFC883
    let subnet := Subnet.around address 17 (by decide)
    ofAddress address 17 = .ok subnet ∧ MaskedInterval address 17 subnet ∧
      subnet.network.value = 0x0AFF8000 ∧ subnet.broadcast.value = 0x0AFFFFFF := by
  intro address subnet
  have made : ofAddress address 17 = .ok subnet := rfl
  exact ⟨made, maskedInterval_of_ofAddress made, by decide, by decide⟩

end TopoPlan.Subnet
