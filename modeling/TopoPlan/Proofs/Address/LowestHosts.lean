import Mathlib.Data.List.Chain
import Mathlib.Data.Set.Card
import TopoPlan.Proofs.Address.HostSearch
import TopoPlan.Proofs.Address.Intervals

/-!
# Lowest host addresses

The usable addresses of a subnet follow each other without a gap, from the one after its
network address on.  The search takes those that are not reserved, as many as are wanted,
and the count that precedes it tells exactly whether there are enough:
`lowestHosts_of_search` is the main statement.
-/

namespace TopoPlan

/-- Leaving out repetitions keeps the last occurrences, as `List.dedup` does. -/
theorem distinct_eq_dedup {α : Type} [DecidableEq α] (values : List α) :
    distinct values = values.dedup := by
  induction values with
  | nil => rfl
  | cons value rest inductionHypothesis =>
    unfold distinct
    split
    case isTrue again => rw [List.dedup_cons_of_mem again, inductionHypothesis]
    case isFalse new => rw [List.dedup_cons_of_notMem new, inductionHypothesis]

namespace Address

variable {family : Family} {number : Nat}

/-- A number of the width of a family is the value of its address. -/
theorem value_ofNat (bound : number < 2 ^ family.width) : (ofNat family number).value = number :=
  Nat.mod_eq_of_lt bound

/-- The address after the one with a number has the next number. -/
theorem next?_ofNat (bound : number + 1 < 2 ^ family.width) :
    (ofNat family number).next? = some (ofNat family (number + 1)) := by
  have value : (ofNat family number).value = number := value_ofNat (Nat.lt_of_succ_lt bound)
  have fits : (ofNat family number).value + 1 < Nat.pow 2 (ofNat family number).family.width := by
    rw [value]
    exact bound
  rw [next?, ofNat?, dif_pos fits]
  refine congrArg some (eq_of_value rfl ?_)
  rw [value_ofNat bound]
  exact congrArg (· + 1) value

end Address

namespace Subnet

variable {subnet : Subnet} {reserved : List Address} {count : Nat}

/-- The addresses of a subnet that are neither its network address nor, for family v4, its
broadcast address, nor reserved. -/
def vacant (subnet : Subnet) (reserved : List Address) : Set Address :=
  {address | subnet.contains address = true ∧ address ≠ subnet.network ∧
    ¬ (subnet.family = .v4 ∧ address = subnet.broadcast) ∧ address ∉ reserved}

/-- So many vacant addresses in increasing order, all below the other vacant ones. -/
structure LowestHosts (subnet : Subnet) (reserved : List Address) (count : Nat)
    (hosts : List Address) : Prop where
  count : hosts.length = count
  vacant : ∀ address ∈ hosts, address ∈ subnet.vacant reserved
  increasing : hosts.Pairwise fun left right => left.value < right.value
  lowest : ∀ other ∈ subnet.vacant reserved, other ∉ hosts →
    ∀ address ∈ hosts, address.value < other.value

/-! ## Usable addresses -/

/-- The usable addresses, from the one after the network address on. -/
def usableHosts (subnet : Subnet) : List Address :=
  (List.range' (subnet.network.value + 1) (subnet.size - subnet.unusableCount)).map
    (Address.ofNat subnet.family)

/-- The network address is never usable. -/
theorem unusableCount_pos (subnet : Subnet) : 0 < subnet.unusableCount := by
  unfold unusableCount
  split <;> decide

/-- At most two addresses of a subnet are not usable. -/
theorem unusableCount_le (subnet : Subnet) : subnet.unusableCount ≤ 2 := by
  unfold unusableCount
  split <;> decide

/-- The numbers of usable addresses are numbers of the family. -/
theorem lt_of_mem_usable {number : Nat}
    (listed : number ∈ List.range' (subnet.network.value + 1)
      (subnet.size - subnet.unusableCount)) :
    number < 2 ^ subnet.family.width := by
  have inside : subnet.network.value + subnet.size ≤ 2 ^ subnet.family.width :=
    subnet.value_add_size_le
  have some := subnet.unusableCount_pos
  rw [List.mem_range'_1] at listed
  omega

/-- An address is usable when its number is above that of the network address and, for
family v4, below that of the broadcast address. -/
theorem isUsable_iff_value {address : Address} :
    subnet.isUsable address = true ↔ address.family = subnet.family ∧
      subnet.network.value < address.value ∧
        address.value < subnet.network.value + 1 + (subnet.size - subnet.unusableCount) := by
  have last := subnet.value_broadcast
  have positive := subnet.size_pos
  rw [isUsable_iff, contains_iff]
  constructor
  · rintro ⟨⟨family, low, high⟩, notNetwork, notBroadcast⟩
    have above : address.value ≠ subnet.network.value :=
      fun same => notNetwork (Address.eq_of_value family same)
    refine ⟨family, by omega, ?_⟩
    unfold unusableCount
    split
    case h_1 v4 =>
      have below : address.value ≠ subnet.broadcast.value :=
        fun same => notBroadcast ⟨v4, Address.eq_of_value family same⟩
      omega
    case h_2 => omega
  · rintro ⟨family, above, below⟩
    have some := subnet.unusableCount_pos
    refine ⟨⟨family, by omega, by omega⟩, ?_, ?_⟩
    · rintro rfl
      omega
    · rintro ⟨v4, rfl⟩
      simp only [unusableCount, v4] at below
      omega

/-- The listed addresses are the usable ones. -/
theorem mem_usableHosts {address : Address} :
    address ∈ subnet.usableHosts ↔ subnet.isUsable address = true := by
  rw [isUsable_iff_value, usableHosts, List.mem_map]
  constructor
  · rintro ⟨number, listed, rfl⟩
    have value := Address.value_ofNat (lt_of_mem_usable listed)
    rw [List.mem_range'_1] at listed
    exact ⟨rfl, by omega, by omega⟩
  · rintro ⟨family, above, below⟩
    have listed : address.value ∈ List.range' (subnet.network.value + 1)
        (subnet.size - subnet.unusableCount) := by
      rw [List.mem_range'_1]
      omega
    exact ⟨address.value, listed,
      Address.eq_of_value family.symm (Address.value_ofNat (lt_of_mem_usable listed))⟩

/-- Usable addresses increase. -/
theorem usableHosts_increasing (subnet : Subnet) :
    subnet.usableHosts.Pairwise fun left right => left.value < right.value := by
  rw [usableHosts, List.pairwise_map]
  refine (List.pairwise_lt_range' 1).imp_of_mem fun {left right} leftListed rightListed below => ?_
  rwa [Address.value_ofNat (lt_of_mem_usable leftListed),
    Address.value_ofNat (lt_of_mem_usable rightListed)]

/-- No usable address is listed twice. -/
theorem usableHosts_nodup (subnet : Subnet) : subnet.usableHosts.Nodup :=
  subnet.usableHosts_increasing.imp fun below same => Nat.ne_of_lt below (congrArg _ same)

/-- Each usable address is the one after the address before it. -/
theorem usableHosts_chain (subnet : Subnet) :
    (subnet.network :: subnet.usableHosts).IsChain fun left right => left.next? = some right := by
  have start : Address.ofNat subnet.family subnet.network.value = subnet.network :=
    Address.eq_of_value rfl (Address.value_ofNat subnet.network.value_lt)
  have numbers : subnet.network :: subnet.usableHosts =
      (List.range' subnet.network.value (subnet.size - subnet.unusableCount + 1)).map
        (Address.ofNat subnet.family) := by
    rw [List.range'_succ, List.map_cons, start]
    rfl
  rw [numbers, List.isChain_map, List.isChain_iff_getElem]
  intro position inside
  have last := subnet.value_add_size_le
  have some := subnet.unusableCount_pos
  rw [List.length_range'] at inside
  simp only [List.getElem_range', Nat.one_mul, ← Nat.add_assoc]
  exact Address.next?_ofNat (Nat.lt_of_lt_of_le (by omega) last)

/-! ## The search -/

/-- A search over addresses that follow each other takes the first ones that are not
reserved.  It looks at those and at the reserved ones between them. -/
theorem searchHosts_eq {previous : Address} {following : List Address} {window : Nat}
    (chain : (previous :: following).IsChain fun left right => left.next? = some right)
    (usable : ∀ address ∈ following, subnet.isUsable address = true)
    (enough : count ≤ (following.filter fun address => !reserved.contains address).length)
    (wide : count + (following.filter reserved.contains).length ≤ window) :
    subnet.searchHosts reserved window count previous =
      some ((following.filter fun address => !reserved.contains address).take count) := by
  induction following generalizing previous count window with
  | nil =>
    cases Nat.le_zero.mp enough
    cases window <;> rfl
  | cons current rest inductionHypothesis =>
    obtain ⟨next, chain⟩ := List.isChain_cons_cons.mp chain
    obtain ⟨currentUsable, usable⟩ := List.forall_mem_cons.mp usable
    cases count with
    | zero => cases window <;> rfl
    | succ count =>
      cases window with
      | zero => omega
      | succ window =>
        rw [searchHosts, next, Option.bind_eq_bind, Option.bind_some, currentUsable]
        cases taken : reserved.contains current with
        | true =>
          simp only [List.filter_cons, taken, Bool.not_true, Bool.false_eq_true, if_true, if_false,
            List.length_cons] at enough wide ⊢
          exact inductionHypothesis chain usable enough (by omega)
        | false =>
          simp only [List.filter_cons, taken, Bool.not_false, Bool.false_eq_true, if_true, if_false,
            List.length_cons] at enough wide ⊢
          have found : subnet.searchHosts reserved window count current =
              some ((rest.filter fun address => !reserved.contains address).take count) :=
            inductionHypothesis chain usable (by omega) (by omega)
          rw [found]
          rfl

/-! ## Counting -/

/-- The usable addresses that are not reserved, in increasing order. -/
def vacantHosts (subnet : Subnet) (reserved : List Address) : List Address :=
  subnet.usableHosts.filter fun address => !reserved.contains address

/-- The listed vacant addresses are all of them. -/
theorem mem_vacantHosts {address : Address} :
    address ∈ subnet.vacantHosts reserved ↔ address ∈ subnet.vacant reserved := by
  rw [vacantHosts, List.mem_filter, mem_usableHosts, isUsable_iff]
  simp [vacant, and_assoc]

/-- There are as many vacant addresses as are listed. -/
theorem encard_vacant (subnet : Subnet) (reserved : List Address) :
    (subnet.vacant reserved).encard = (subnet.vacantHosts reserved).length := by
  have once : (subnet.vacantHosts reserved).Nodup := subnet.usableHosts_nodup.filter _
  have listed : subnet.vacant reserved = ((subnet.vacantHosts reserved).toFinset : Set Address) := by
    ext address
    rw [List.coe_toFinset]
    exact mem_vacantHosts.symm
  rw [listed, Set.encard_coe_eq_coe_finsetCard, List.toFinset_card_of_nodup once]

/-- The reserved addresses that are counted are the usable ones among the reserved, each
once. -/
theorem length_distinct_reserved (subnet : Subnet) (reserved : List Address) :
    (distinct (reserved.filter subnet.isUsable)).length =
      (subnet.usableHosts.filter reserved.contains).length := by
  rw [distinct_eq_dedup]
  apply List.Perm.length_eq
  refine (List.perm_ext_iff_of_nodup (List.nodup_dedup _) (subnet.usableHosts_nodup.filter _)).mpr ?_
  intro address
  simp [mem_usableHosts, and_comm]

/-- For counts and lists that can be there, the count of addresses left tells whether
there are enough vacant ones, although it is cut off. -/
theorem le_hostCapacity_iff (small : count < 2 ^ 64) (short : reserved.length < 2 ^ 64) :
    count ≤ subnet.hostCapacity reserved ↔ count ≤ (subnet.vacantHosts reserved).length := by
  have split := List.length_eq_length_filter_add (l := subnet.usableHosts) reserved.contains
  have total : subnet.usableHosts.length = subnet.size - subnet.unusableCount := by
    rw [usableHosts, List.length_map, List.length_range']
  have few := subnet.unusableCount_le
  have counted := subnet.length_distinct_reserved reserved
  have most : (distinct (reserved.filter subnet.isUsable)).length ≤ reserved.length := by
    rw [distinct_eq_dedup]
    exact (List.dedup_sublist _).length_le.trans (List.length_filter_le _ _)
  have limit : subnet.countedSize = min subnet.size (2 ^ 128 - 1) := rfl
  rw [hostCapacity, vacantHosts, limit]
  omega

/-! ## Hosts -/

/-- The first vacant addresses are the lowest ones. -/
theorem lowestHosts_take (enough : count ≤ (subnet.vacantHosts reserved).length) :
    LowestHosts subnet reserved count ((subnet.vacantHosts reserved).take count) := by
  have increasing : (subnet.vacantHosts reserved).Pairwise fun left right =>
      left.value < right.value := subnet.usableHosts_increasing.filter _
  rw [← List.take_append_drop count (subnet.vacantHosts reserved), List.pairwise_append]
    at increasing
  constructor
  case count => rw [List.length_take, Nat.min_eq_left enough]
  case vacant => exact fun address listed => mem_vacantHosts.mp (List.mem_of_mem_take listed)
  case increasing => exact increasing.1
  case lowest =>
    intro other vacant left address listed
    have behind := mem_vacantHosts.mpr vacant
    rw [← List.take_append_drop count (subnet.vacantHosts reserved), List.mem_append] at behind
    exact increasing.2.2 address listed other (behind.resolve_left left)

/-- A search that may look at enough addresses finds the first vacant ones. -/
theorem searchHosts_of_enough (enough : count ≤ (subnet.vacantHosts reserved).length)
    {window : Nat} (wide : count + reserved.length ≤ window) :
    subnet.searchHosts reserved window count subnet.network =
      some ((subnet.vacantHosts reserved).take count) := by
  refine searchHosts_eq subnet.usableHosts_chain (fun _ => mem_usableHosts.mp) enough ?_
  have most : (subnet.usableHosts.filter reserved.contains).length ≤ reserved.length := by
    rw [← length_distinct_reserved, distinct_eq_dedup]
    exact (List.dedup_sublist _).length_le.trans (List.length_filter_le _ _)
  omega

/-- Hosts get the first vacant addresses, if there are as many as they need. -/
theorem hosts?_eq (small : count < 2 ^ 64) (short : reserved.length < 2 ^ 64) :
    subnet.hosts? count reserved =
      if count ≤ (subnet.vacantHosts reserved).length then
        some ((subnet.vacantHosts reserved).take count)
      else none := by
  unfold hosts?
  split
  case isTrue none => rw [none, if_pos (Nat.zero_le _), List.take_zero]
  case isFalse some =>
    have room : count ≤ subnet.hostCapacity reserved ↔
        count ≤ (subnet.vacantHosts reserved).length := le_hostCapacity_iff small short
    split
    case isTrue full =>
      rw [if_neg fun enough => Nat.not_le.mpr full (room.mpr enough)]
    case isFalse left =>
      have enough := room.mp (Nat.not_lt.mp left)
      rw [if_pos enough, searchHosts_of_enough enough (Nat.le_refl _)]

/-- For counts and lists that can be there, hosts get addresses exactly when there are
enough vacant ones, and then the lowest ones.  Once the count of addresses left is high
enough the search cannot fail, however far it may look. -/
theorem lowestHosts_of_search (small : count < 2 ^ 64) (short : reserved.length < 2 ^ 64) :
    ((subnet.hosts? count reserved).isSome = true ↔
        count = 0 ∨ (count : ℕ∞) ≤ (subnet.vacant reserved).encard) ∧
      (∀ hosts, subnet.hosts? count reserved = some hosts →
        LowestHosts subnet reserved count hosts) ∧
      (count ≤ subnet.hostCapacity reserved → ∀ window, count + reserved.length ≤ window →
        ∃ hosts, subnet.searchHosts reserved window count subnet.network = some hosts ∧
          subnet.hosts? count reserved = some hosts) := by
  rw [hosts?_eq small short, encard_vacant, ENat.natCast_le_natCast]
  refine ⟨?_, fun hosts found => ?_, fun room window wide => ?_⟩
  · have zero : count = 0 → count ≤ (subnet.vacantHosts reserved).length := by omega
    rw [or_iff_right_of_imp zero]
    split
    case isTrue enough => exact iff_of_true rfl enough
    case isFalse few => exact iff_of_false Bool.false_ne_true few
  · split at found
    case isTrue enough =>
      cases found
      exact lowestHosts_take enough
    case isFalse => cases found
  · have enough := (le_hostCapacity_iff small short).mp room
    exact ⟨_, searchHosts_of_enough enough wide, if_pos enough⟩

/-- Three hosts of a subnet in which the second address is reserved twice, and further
reserved addresses are the network address, the broadcast address and ones elsewhere. -/
theorem lowestHosts_around_reserved :
    let subnet := around (Address.ofNat .v4 0x0A000000) 29 (by decide)
    let reserved := [0x0A000002, 0x0A000000, 0x0A000002, 0x0A000007, 0x0A000901].map
      (Address.ofNat .v4) ++ [Address.ofNat .v6 1]
    let hosts := [0x0A000001, 0x0A000003, 0x0A000004].map (Address.ofNat .v4)
    3 < 2 ^ 64 ∧ reserved.length < 2 ^ 64 ∧ 3 ≤ subnet.hostCapacity reserved ∧
      subnet.hosts? 3 reserved = some hosts ∧ LowestHosts subnet reserved 3 hosts := by
  intro subnet reserved hosts
  have small : 3 < 2 ^ 64 := by decide
  have short : reserved.length < 2 ^ 64 := by decide
  have found : subnet.hosts? 3 reserved = some hosts := by decide +kernel
  exact ⟨small, short, by decide +kernel, found,
    (lowestHosts_of_search small short).2.1 hosts found⟩

end Subnet

end TopoPlan
