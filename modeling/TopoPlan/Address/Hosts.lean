import TopoPlan.Address.Subnet

/-!
# Host addresses of a subnet

Hosts take the lowest addresses of a subnet that are neither its network address
nor, for family v4, its broadcast address, nor reserved.
-/

namespace TopoPlan

/-- The list without repetitions; the last occurrence of a value stays. -/
def distinct {α : Type} [DecidableEq α] : List α -> List α
  | [] => []
  | value :: rest => if value ∈ rest then distinct rest else value :: distinct rest

namespace Subnet

/-- Number of addresses that no host may take: the network address and, for
family v4, the broadcast address. -/
def unusableCount (subnet : Subnet) : Nat :=
  match subnet.family with
  | .v4 => 2
  | .v6 => 1

/-- Whether an address is the broadcast address; family v6 has none. -/
def isBroadcast (subnet : Subnet) (address : Address) : Bool :=
  subnet.family = .v4 && address = subnet.broadcast

/-- Whether a host may take an address. -/
def isUsable (subnet : Subnet) (address : Address) : Bool :=
  subnet.contains address && address != subnet.network && !subnet.isBroadcast address

/-- Number of addresses as it is counted, which falls one short for a subnet of all
addresses of family v6. -/
def countedSize (subnet : Subnet) : Nat := min subnet.size (Nat.pow 2 128 - 1)

/-- Number of addresses left for hosts. -/
def hostCapacity (subnet : Subnet) (reserved : List Address) : Nat :=
  subnet.countedSize - subnet.unusableCount -
    (distinct (reserved.filter subnet.isUsable)).length

/-- Search upwards from an address for the given number of usable addresses that
are not reserved, looking at no more than `window` addresses.  There is no result
when the search leaves the subnet. -/
def searchHosts (subnet : Subnet) (reserved : List Address) :
    (window count : Nat) -> Address -> Option (List Address)
  | _, 0, _ => some []
  | 0, _ + 1, _ => none
  | window + 1, count + 1, previous => do
    let current <- previous.next?
    if !subnet.isUsable current then none
    else if reserved.contains current then searchHosts subnet reserved window (count + 1) current
    else
      let following <- searchHosts subnet reserved window count current
      pure (current :: following)

/-- The given number of host addresses in increasing order, unless the subnet has
too few.  Every address looked at is taken or reserved, which bounds the search. -/
def hosts? (subnet : Subnet) (count : Nat) (reserved : List Address) :
    Option (List Address) :=
  if count = 0 then some []
  else if subnet.hostCapacity reserved < count then none
  else searchHosts subnet reserved (count + reserved.length) count subnet.network

end Subnet

end TopoPlan
