import Mathlib.Data.List.Nodup
import TopoPlan.Address.Hosts

/-!
# Found host addresses

The search for host addresses goes upwards and takes what is usable and not reserved.
`chosen_of_hosts?` is the main statement: what it finds are as many different hosts as
were asked for.
-/

namespace TopoPlan

/-- The address after another one has a greater value. -/
theorem Address.value_lt_of_next? {address following : Address}
    (next : address.next? = some following) : address.value < following.value := by
  unfold next? ofNat? at next
  split at next
  case isTrue bound =>
    cases next
    exact Nat.lt_succ_self _
  case isFalse => cases next

namespace Subnet

/-- Hosts take addresses of the subnet that are neither its network address nor its
broadcast address. -/
theorem isUsable_iff {subnet : Subnet} {address : Address} :
    subnet.isUsable address = true ↔
      subnet.contains address = true ∧ address ≠ subnet.network ∧
        ¬ (subnet.family = .v4 ∧ address = subnet.broadcast) := by
  simp [isUsable, isBroadcast, and_assoc, imp_iff_not_or]

/-- Different host addresses of a subnet that nobody has reserved. -/
structure Chosen (subnet : Subnet) (reserved : List Address) (count : Nat)
    (hosts : List Address) : Prop where
  count : hosts.length = count
  usable : ∀ address ∈ hosts, subnet.isUsable address = true
  free : ∀ address ∈ hosts, address ∉ reserved
  once : hosts.Nodup

variable {subnet : Subnet} {reserved : List Address}

/-- No hosts are asked for. -/
theorem chosen_nil : Chosen subnet reserved 0 [] :=
  ⟨rfl, List.forall_mem_nil _, List.forall_mem_nil _, .nil⟩

/-- One host more, below all others. -/
theorem Chosen.cons {count : Nat} {hosts : List Address} (chosen : Chosen subnet reserved count hosts)
    {address : Address} (usable : subnet.isUsable address = true) (free : address ∉ reserved)
    (least : ∀ other ∈ hosts, address.value < other.value) :
    Chosen subnet reserved (count + 1) (address :: hosts) where
  count := by rw [List.length_cons, chosen.count]
  usable := List.forall_mem_cons.mpr ⟨usable, chosen.usable⟩
  free := List.forall_mem_cons.mpr ⟨free, chosen.free⟩
  once := by
    refine List.nodup_cons.mpr ⟨?_, chosen.once⟩
    intro member
    exact Nat.lt_irrefl _ (least address member)

/-- The search finds hosts above the address that it starts from. -/
theorem chosen_of_searchHosts (window count : Nat) (previous : Address) {hosts : List Address}
    (run : searchHosts subnet reserved window count previous = some hosts) :
    Chosen subnet reserved count hosts ∧ ∀ address ∈ hosts, previous.value < address.value := by
  induction window generalizing count previous hosts with
  | zero =>
    cases count with
    | zero =>
      cases run
      exact ⟨chosen_nil, List.forall_mem_nil _⟩
    | succ count => cases run
  | succ window inductionHypothesis =>
    cases count with
    | zero =>
      cases run
      exact ⟨chosen_nil, List.forall_mem_nil _⟩
    | succ count =>
      obtain ⟨current, next, run⟩ := Option.bind_eq_some_iff.mp run
      have above := Address.value_lt_of_next? next
      split at run
      case isTrue => cases run
      case isFalse outside =>
        have usable : subnet.isUsable current = true := by simpa using outside
        split at run
        case isTrue =>
          obtain ⟨chosen, higher⟩ := inductionHypothesis (count + 1) current run
          exact ⟨chosen, fun address member => Nat.lt_trans above (higher address member)⟩
        case isFalse unreserved =>
          obtain ⟨following, found, run⟩ := Option.bind_eq_some_iff.mp run
          cases run
          obtain ⟨chosen, higher⟩ := inductionHypothesis count current found
          have free : current ∉ reserved := by simpa using unreserved
          refine ⟨chosen.cons usable free higher, List.forall_mem_cons.mpr ⟨above, ?_⟩⟩
          intro address member
          exact Nat.lt_trans above (higher address member)

/-- Found hosts are different host addresses that nobody has reserved. -/
theorem chosen_of_hosts? {count : Nat} {hosts : List Address}
    (found : subnet.hosts? count reserved = some hosts) : Chosen subnet reserved count hosts := by
  unfold hosts? at found
  split at found
  case isTrue none =>
    cases found
    rw [none]
    exact chosen_nil
  case isFalse =>
    split at found
    case isTrue => cases found
    case isFalse => exact (chosen_of_searchHosts _ count subnet.network found).1

end Subnet

end TopoPlan
