import Mathlib.Algebra.Ring.Nat
import Mathlib.Tactic.Common
import TopoPlan.Address.Subnet

/-!
# Subnets as intervals

A subnet holds the `size` addresses of its family that start at its network address.
`contains_iff`, `covers_iff` and `meets_iff` turn the tests on subnets into
inequalities between numbers; `covers_or_covers_of_meets` says that two subnets are
nested or share no address.
-/

namespace TopoPlan

/-- Addresses are equal when family and number are. -/
theorem Address.eq_of_value {left right : Address} (family : left.family = right.family)
    (value : left.value = right.value) : left = right := by
  cases left
  cases right
  cases family
  cases value
  rfl

namespace Subnet

/-- Two subnets share an address. -/
def Meets (left right : Subnet) : Prop :=
  ∃ address, left.contains address ∧ right.contains address

/-- Sharing an address does not depend on the order. -/
theorem Meets.symm {left right : Subnet} (meets : left.Meets right) : right.Meets left := by
  obtain ⟨address, inLeft, inRight⟩ := meets
  exact ⟨address, inRight, inLeft⟩

/-- Subnets are equal when family, first number and length are. -/
theorem eq_of_parts {left right : Subnet} (family : left.family = right.family)
    (value : left.network.value = right.network.value) (length : left.length = right.length) :
    left = right := by
  have network := Address.eq_of_value family value
  cases left
  cases right
  cases network
  cases length
  rfl

theorem size_eq (subnet : Subnet) : subnet.size = 2 ^ subnet.hostBits :=
  rfl

/-- Every subnet has an address. -/
theorem size_pos (subnet : Subnet) : 0 < subnet.size :=
  Nat.two_pow_pos _

/-- No length exceeds the width of the family. -/
theorem length_le_width (subnet : Subnet) : subnet.length ≤ subnet.width :=
  subnet.length_le

/-- A subnet starts at a multiple of its size. -/
theorem size_dvd_value (subnet : Subnet) : subnet.size ∣ subnet.network.value :=
  subnet.aligned

/-- Subnets divide the addresses of their family. -/
theorem size_dvd_space (subnet : Subnet) : subnet.size ∣ 2 ^ subnet.width :=
  Nat.pow_dvd_pow 2 (Nat.sub_le _ _)

/-- The last multiple of a step below a limit that the step divides is a whole step
below it. -/
theorem add_le_of_dvd {step low high : Nat} (below : low < high) (lowStep : step ∣ low)
    (highStep : step ∣ high) : low + step ≤ high := by
  obtain ⟨lowCount, rfl⟩ := lowStep
  obtain ⟨highCount, rfl⟩ := highStep
  have counts : lowCount < highCount := Nat.lt_of_mul_lt_mul_left below
  calc step * lowCount + step = step * (lowCount + 1) := by rw [Nat.mul_succ]
    _ ≤ step * highCount := Nat.mul_le_mul_left step counts

/-- A subnet ends within the numbers of its family. -/
theorem value_add_size_le (subnet : Subnet) :
    subnet.network.value + subnet.size ≤ 2 ^ subnet.width :=
  add_le_of_dvd subnet.network.value_lt subnet.size_dvd_value subnet.size_dvd_space

/-- The addresses of a subnet are an interval of its family. -/
theorem contains_iff {subnet : Subnet} {address : Address} :
    subnet.contains address = true ↔
      address.family = subnet.family ∧ subnet.network.value ≤ address.value ∧
        address.value < subnet.network.value + subnet.size := by
  have positive := subnet.size_pos
  have remainder := Nat.mod_lt address.value positive
  have below := Nat.mod_le address.value subnet.size
  simp only [contains, Bool.and_eq_true, decide_eq_true_eq]
  constructor
  · rintro ⟨family, masked⟩
    exact ⟨family, by omega, by omega⟩
  · rintro ⟨family, low, high⟩
    refine ⟨family, ?_⟩
    obtain ⟨count, start⟩ := subnet.size_dvd_value
    have offset : address.value % subnet.size = address.value - subnet.network.value := by
      have split : address.value = subnet.size * count + (address.value - subnet.network.value) := by
        omega
      calc address.value % subnet.size
          = (subnet.size * count + (address.value - subnet.network.value)) % subnet.size := by
            rw [← split]
        _ = (address.value - subnet.network.value) % subnet.size := Nat.mul_add_mod _ _ _
        _ = address.value - subnet.network.value := Nat.mod_eq_of_lt (by omega)
    omega

/-- The number of the last address of a subnet. -/
theorem value_broadcast (subnet : Subnet) :
    subnet.broadcast.value = subnet.network.value + (subnet.size - 1) := by
  have inside := subnet.value_add_size_le
  have positive := subnet.size_pos
  refine Nat.mod_eq_of_lt (Nat.lt_of_lt_of_le ?_ inside)
  omega

/-- A subnet holds its network address. -/
theorem contains_network (subnet : Subnet) : subnet.contains subnet.network = true :=
  contains_iff.mpr ⟨rfl, Nat.le_refl _, Nat.lt_add_of_pos_right subnet.size_pos⟩

/-- In one family the longer subnet is the smaller one, and its size divides the other. -/
theorem size_dvd_size {outer inner : Subnet} (family : inner.family = outer.family)
    (longer : outer.length ≤ inner.length) : inner.size ∣ outer.size := by
  have width : inner.width = outer.width := by rw [width, width, family]
  apply Nat.pow_dvd_pow
  simp only [hostBits, width]
  omega

/-- A smaller size comes with a greater length. -/
theorem length_le_of_size_le {outer inner : Subnet} (family : inner.family = outer.family)
    (smaller : inner.size ≤ outer.size) : outer.length ≤ inner.length := by
  have width : inner.width = outer.width := by rw [width, width, family]
  have bits := (Nat.pow_le_pow_iff_right (by decide : 1 < 2)).mp smaller
  have innerLength := inner.length_le_width
  have outerLength := outer.length_le_width
  simp only [hostBits] at bits
  omega

/-- One subnet covers another exactly when the interval of the one holds that of the
other. -/
theorem covers_iff {outer inner : Subnet} :
    outer.covers inner = true ↔
      inner.family = outer.family ∧ outer.network.value ≤ inner.network.value ∧
        inner.network.value + inner.size ≤ outer.network.value + outer.size := by
  simp only [covers, Bool.and_eq_true, decide_eq_true_eq, contains_iff]
  constructor
  · rintro ⟨longer, family, low, high⟩
    have divides := size_dvd_size family longer
    have start := Nat.dvd_trans divides outer.size_dvd_value
    exact ⟨family, low, add_le_of_dvd high inner.size_dvd_value (Nat.dvd_add start divides)⟩
  · rintro ⟨family, low, high⟩
    have positive := inner.size_pos
    exact ⟨length_le_of_size_le family (by omega), family, low, by omega⟩

/-- What a covered subnet holds lies in the covering one. -/
theorem contains_of_covers {outer inner : Subnet} {address : Address}
    (covers : outer.covers inner = true) (inside : inner.contains address = true) :
    outer.contains address = true := by
  rw [covers_iff] at covers
  rw [contains_iff] at inside ⊢
  exact ⟨inside.1.trans covers.1, by omega, by omega⟩

/-- Subnets share an address exactly when each starts before the other one ends. -/
theorem meets_iff {left right : Subnet} :
    left.Meets right ↔
      left.family = right.family ∧ left.network.value < right.network.value + right.size ∧
        right.network.value < left.network.value + left.size := by
  constructor
  · rintro ⟨address, inLeft, inRight⟩
    rw [contains_iff] at inLeft inRight
    exact ⟨inLeft.1.symm.trans inRight.1, by omega, by omega⟩
  · rintro ⟨family, rightLater, leftLater⟩
    have leftPositive := left.size_pos
    have rightPositive := right.size_pos
    -- The later one of the two network addresses lies in both.
    rcases Nat.le_total left.network.value right.network.value with first | first
    · exact ⟨right.network, contains_iff.mpr ⟨family.symm, first, leftLater⟩,
        right.contains_network⟩
    · exact ⟨left.network, left.contains_network,
        contains_iff.mpr ⟨family, first, rightLater⟩⟩

instance (left right : Subnet) : Decidable (left.Meets right) :=
  decidable_of_iff _ meets_iff.symm

/-- Of two subnets that share an address the larger one covers the other. -/
theorem covers_of_meets {outer inner : Subnet} (meets : outer.Meets inner)
    (longer : outer.length ≤ inner.length) : outer.covers inner = true := by
  obtain ⟨family, low, high⟩ := meets_iff.mp meets
  have divides := size_dvd_size family.symm longer
  have outerStart := Nat.dvd_trans divides outer.size_dvd_value
  have innerEnd := Nat.dvd_add inner.size_dvd_value (Nat.dvd_refl inner.size)
  have notBefore := add_le_of_dvd low outerStart innerEnd
  have notBehind :=
    add_le_of_dvd high inner.size_dvd_value (Nat.dvd_add outerStart divides)
  exact covers_iff.mpr ⟨family.symm, by omega, by omega⟩

/-- Two subnets that share an address are nested. -/
theorem covers_or_covers_of_meets {left right : Subnet} (meets : left.Meets right) :
    left.covers right = true ∨ right.covers left = true := by
  rcases Nat.le_total left.length right.length with longer | longer
  · exact .inl (covers_of_meets meets longer)
  · exact .inr (covers_of_meets meets.symm longer)

/-- Nested subnets share an address. -/
theorem meets_of_covers {outer inner : Subnet} (covers : outer.covers inner = true) :
    outer.Meets inner :=
  ⟨inner.network, contains_of_covers covers inner.contains_network, inner.contains_network⟩

/-- A subnet that meets a covered one meets the covering one. -/
theorem Meets.of_covers {outer inner other : Subnet} (meets : inner.Meets other)
    (covers : outer.covers inner = true) : outer.Meets other := by
  obtain ⟨address, inInner, inOther⟩ := meets
  exact ⟨address, contains_of_covers covers inInner, inOther⟩

section Around

variable {address : Address} {length : Nat} {bound : length ≤ address.family.width}

/-- The subnet around an address holds it. -/
theorem contains_around : (around address length bound).contains address = true := by
  simp [contains, around, size, hostBits, width, family]

@[simp]
theorem length_around : (around address length bound).length = length :=
  rfl

@[simp]
theorem family_around : (around address length bound).family = address.family :=
  rfl

/-- The subnet around an address is given for every length of its family. -/
theorem ofAddress_eq_ok (bound : length ≤ address.family.width) :
    ofAddress address length = .ok (around address length bound) := by
  simp [ofAddress, bound]

/-- A subnet given for an address and a length is the one around the address. -/
theorem contains_of_ofAddress {subnet : Subnet} (given : ofAddress address length = .ok subnet) :
    subnet.contains address = true ∧ subnet.length = length := by
  unfold ofAddress at given
  split at given
  case isTrue bound =>
    cases given
    exact ⟨contains_around, rfl⟩
  case isFalse => cases given

/-- The subnet of a given length that holds an address is the one around it. -/
theorem eq_around_of_contains {subnet : Subnet} (inside : subnet.contains address = true)
    (lengths : subnet.length = length) : subnet = around address length bound := by
  have family := (contains_iff.mp inside).1
  have start : address.value - address.value % subnet.size = subnet.network.value := by
    simpa [contains, family] using inside
  refine eq_of_parts family.symm ?_ lengths
  have size : subnet.size = Nat.pow 2 (address.family.width - length) := by
    rw [Subnet.size, hostBits, width, family, lengths]
  rw [← start, size]
  rfl

end Around

end Subnet

end TopoPlan
