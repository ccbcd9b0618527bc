import TopoPlan.Proofs.Address.HostSearch
import TopoPlan.Proofs.Address.WrittenSubnets
import TopoPlan.Proofs.Network.SegmentSubnets

/-!
# Addresses of interfaces

After an assignment every interface of a segment has an address of the subnet of the
segment, and no address was given twice.  `AddressedSegment` says what holds of one
segment, and `addressed_segment` is the main statement.
-/

namespace TopoPlan

namespace Network

/-- The address of an interface in a layer, as it is read. -/
def address? (network : Network) (layer : Layer) (id : InterfaceId) : Option Address :=
  (network.givenAddress? layer id).bind Address.parseHost?

/-- An interface has an address of a subnet, and its parameters are the texts of both. -/
structure HasAddress (network : Network) (layer : Layer) (subnet : Subnet) (id : InterfaceId)
    (address : Address) : Prop where
  text : network.givenAddress? layer id = some address.text
  read : network.address? layer id = some address
  subnetText : (network.interface id).parameters.get? (subnetKey layer.name) = some subnet.text
  lengthText : (network.interface id).parameters.get? (lengthKey layer.name) =
    some (Numeral.text subnet.length)
  inside : subnet.contains address = true

/-- What an assignment makes of a segment with interfaces.  Interfaces that had an
address keep it, and the others get host addresses that no other interface has. -/
structure AddressedSegment (network after : Network) (layer : Layer) (id : SegmentId)
    (subnet : Subnet) : Prop where
  bound : (after.segment id).subnet = some subnet
  subnetText : (after.segment id).parameters.get? (subnetKey layer.name) = some subnet.text
  lengthText : (after.segment id).parameters.get? (lengthKey layer.name) =
    some (Numeral.text subnet.length)
  interfaces : ∀ port ∈ (after.segment id).interfaces,
    ∃ address, after.HasAddress layer subnet port address
  kept : ∀ port ∈ (after.segment id).interfaces,
    (network.givenAddress? layer port).isSome = true →
      after.address? layer port = network.address? layer port
  hosts : ∀ port ∈ (after.segment id).interfaces, network.givenAddress? layer port = none →
    ∀ address, after.address? layer port = some address →
      address ≠ subnet.network ∧ ¬ (subnet.family = .v4 ∧ address = subnet.broadcast)
  distinct : ∀ port ∈ (after.segment id).interfaces, network.givenAddress? layer port = none →
    ∀ other ∈ (after.segment id).interfaces, other ≠ port →
      after.address? layer other ≠ after.address? layer port
  connections : ∀ connection ∈ (after.segment id).connections,
    ∃ text, after.givenSubnet? layer connection = some text ∧ Subnet.parse text = .ok subnet

end Network

namespace SegmentPlan

/-- A plan with a subnet that fits its segment, and the hosts found in it. -/
structure Settles (network : Network) (layer : Layer) (plan : SegmentPlan) (subnet : Subnet)
    (hosts : List Address) : Prop where
  chosen : plan.subnet = some subnet
  found : plan.hosts? subnet = some hosts
  waiting : plan.waiting = (network.segment plan.segment).interfaces.filter fun port =>
    (network.givenAddress? layer port).isNone
  reserved : plan.reserved.map Prod.fst = (network.segment plan.segment).interfaces.filter
    fun port => (network.givenAddress? layer port).isSome
  addresses : ∀ entry ∈ plan.reserved, network.address? layer entry.1 = some entry.2
  inside : ∀ entry ∈ plan.reserved, subnet.contains entry.2 = true
  connections : ∀ connection ∈ (network.segment plan.segment).connections, ∀ text,
    network.givenSubnet? layer connection = some text → Subnet.parse text = .ok subnet

section Settled

variable {network : Network} {layer : Layer} {plan : SegmentPlan} {subnet : Subnet}
  {hosts : List Address}

/-- The hosts of a settled plan are chosen apart from the reserved addresses. -/
theorem Settles.chosenHosts (settles : Settles network layer plan subnet hosts) :
    Subnet.Chosen subnet (plan.reserved.map (·.2)) plan.waiting.length hosts :=
  Subnet.chosen_of_hosts? settles.found

/-- The addresses of a plan: the found hosts for interfaces that wait, and the explicit
addresses. -/
theorem Settles.addresses_eq (settles : Settles network layer plan subnet hosts) :
    plan.addresses = (plan.waiting.zip hosts ++ plan.reserved).map fun entry =>
      (entry.1, subnet, entry.2) := by
  simp [SegmentPlan.addresses, settles.chosen, settles.found]

/-- A plan gives each interface of its segment one address. -/
theorem Settles.interfaces_perm (settles : Settles network layer plan subnet hosts) :
    (plan.addresses.map Prod.fst).Perm (network.segment plan.segment).interfaces := by
  have enough : plan.waiting.length ≤ hosts.length :=
    Nat.le_of_eq settles.chosenHosts.count.symm
  have waiting : (plan.waiting.zip hosts).map Prod.fst = plan.waiting :=
    List.map_fst_zip enough
  have keys : plan.addresses.map Prod.fst = plan.waiting ++ plan.reserved.map Prod.fst := by
    rw [settles.addresses_eq, List.map_map, List.map_append]
    exact congrArg (· ++ plan.reserved.map Prod.fst) waiting
  have parts := List.filter_append_perm (fun port => (network.givenAddress? layer port).isNone)
    (network.segment plan.segment).interfaces
  simp only [Option.not_isNone] at parts
  rwa [keys, settles.waiting, settles.reserved]

/-- The addresses that a plan gives, by interface. -/
theorem Settles.exists_address (settles : Settles network layer plan subnet hosts)
    {port : InterfaceId} (onSegment : port ∈ (network.segment plan.segment).interfaces) :
    ∃ address, (port, address) ∈ plan.waiting.zip hosts ++ plan.reserved := by
  have key := settles.interfaces_perm.mem_iff.mpr onSegment
  rw [settles.addresses_eq, List.map_map, List.mem_map] at key
  obtain ⟨⟨other, address⟩, member, rfl⟩ := key
  exact ⟨address, member⟩

/-- An interface without an explicit address gets one of the found hosts. -/
theorem Settles.mem_zip (settles : Settles network layer plan subnet hosts) {port : InterfaceId}
    {address : Address} (member : (port, address) ∈ plan.waiting.zip hosts ++ plan.reserved)
    (free : network.givenAddress? layer port = none) : (port, address) ∈ plan.waiting.zip hosts := by
  apply (List.mem_append.mp member).resolve_right
  intro reserved
  have given := List.mem_map_of_mem (f := Prod.fst) reserved
  rw [settles.reserved, List.mem_filter, free] at given
  cases given.2

/-- An interface with an explicit address keeps it. -/
theorem Settles.mem_reserved (settles : Settles network layer plan subnet hosts)
    {port : InterfaceId} {address : Address}
    (member : (port, address) ∈ plan.waiting.zip hosts ++ plan.reserved)
    (given : (network.givenAddress? layer port).isSome = true) :
    (port, address) ∈ plan.reserved := by
  apply (List.mem_append.mp member).resolve_left
  intro waits
  have waiting := (List.of_mem_zip waits).1
  rw [settles.waiting, List.mem_filter] at waiting
  obtain ⟨text, found⟩ := Option.isSome_iff_exists.mp given
  simp [found] at waiting

/-- Every address of a plan lies in its subnet. -/
theorem Settles.contains (settles : Settles network layer plan subnet hosts) {port : InterfaceId}
    {address : Address} (member : (port, address) ∈ plan.waiting.zip hosts ++ plan.reserved) :
    subnet.contains address = true := by
  rcases List.mem_append.mp member with waits | reserved
  · have usable := settles.chosenHosts.usable address (List.of_mem_zip waits).2
    simp only [Subnet.isUsable, Bool.and_eq_true] at usable
    exact usable.1.1
  · exact settles.inside _ reserved

/-- Different entries of a list are paired with different entries of another. -/
theorem fst_eq_of_mem_zip {α β : Type} {left : List α} {right : List β} (once : right.Nodup)
    {first second : α} {value : β} (member : (first, value) ∈ left.zip right)
    (also : (second, value) ∈ left.zip right) : first = second := by
  obtain ⟨position, inside, same⟩ := List.mem_iff_getElem.mp member
  obtain ⟨other, otherInside, otherSame⟩ := List.mem_iff_getElem.mp also
  rw [List.getElem_zip, Prod.mk.injEq] at same otherSame
  have positions : position = other :=
    (List.Nodup.getElem_inj_iff once).mp (same.2.trans otherSame.2.symm)
  subst positions
  exact same.1.symm.trans otherSame.1

/-- The address of an interface that had none is given to no other interface. -/
theorem Settles.eq_of_address (settles : Settles network layer plan subnet hosts)
    {port other : InterfaceId} {address : Address}
    (member : (port, address) ∈ plan.waiting.zip hosts ++ plan.reserved)
    (also : (other, address) ∈ plan.waiting.zip hosts ++ plan.reserved)
    (free : network.givenAddress? layer port = none) : other = port := by
  have waits := settles.mem_zip member free
  rcases List.mem_append.mp also with otherWaits | reserved
  · exact fst_eq_of_mem_zip settles.chosenHosts.once otherWaits waits
  · have taken : address ∈ plan.reserved.map (·.2) := List.mem_map_of_mem (f := Prod.snd) reserved
    exact absurd taken (settles.chosenHosts.free address (List.of_mem_zip waits).2)

/-- A plan gives its subnet to the connections of its segment. -/
theorem Settles.links_eq (settles : Settles network layer plan subnet hosts) :
    plan.links network =
      (network.segment plan.segment).connections.map fun id => (id, subnet) := by
  simp [SegmentPlan.links, settles.chosen]

end Settled

end SegmentPlan

namespace Addressing

open Network

variable {config : Config} {layer : Layer} {network after : Network}
  {plans final : List SegmentPlan} {plan : SegmentPlan}

/-- What a plan asks for fits its segment. -/
theorem Assignment.settles_of_subnet
    (assignment : Assignment config layer network after plans final) (listed : plan ∈ final)
    {subnet : Subnet} (chosen : plan.subnet = some subnet)
    (inside : ∀ entry ∈ plan.reserved, subnet.contains entry.2 = true)
    (connections : ∀ connection ∈ (network.segment plan.segment).connections, ∀ text,
      network.givenSubnet? layer connection = some text → Subnet.parse text = .ok subnet) :
    ∃ hosts, plan.Settles network layer subnet hosts := by
  obtain ⟨hosts, found⟩ := assignment.hosts plan listed subnet chosen
  obtain ⟨request, _, same, describes⟩ := assignment.request listed
  have waiting : request.waiting = plan.waiting := congrArg (·.waiting) same
  have reserved : request.reserved = plan.reserved := congrArg (·.reserved) same
  refine ⟨hosts, chosen, found, ?_, ?_, fun entry member => ?_, inside, connections⟩
  · rw [← waiting]
    exact describes.waiting
  · rw [← reserved]
    exact describes.reserved
  · rw [← reserved] at member
    obtain ⟨text, given, parsed⟩ := describes.addresses entry member
    simp [address?, given, parsed]

/-- Every plan has a subnet in the end, and fits its segment. -/
theorem Assignment.exists_settles
    (assignment : Assignment config layer network after plans final)
    (valid : config.validate = .ok ()) (member : layer ∈ config.layers) (listed : plan ∈ final) :
    ∃ subnet hosts, plan.Settles network layer subnet hosts := by
  by_cases explicit : network.HasExplicit layer plan.segment
  · have kept : plan ∈ plans :=
      assignment.completed.kept plan listed fun _ _ waits => waits.1 explicit
    have describes := assignment.describes plan kept
    obtain ⟨subnet, chosen⟩ := Option.isSome_iff_exists.mp (describes.explicit.mpr explicit)
    refine ⟨subnet, assignment.settles_of_subnet listed chosen
      (describes.inside subnet chosen) ?_⟩
    intro connection onSegment text given
    obtain ⟨found, same, parsed⟩ := describes.connections connection onSegment text given
    cases chosen.symm.trans same
    exact parsed
  · obtain ⟨policy, serving, _, waits⟩ := assignment.waits valid member listed explicit
    obtain ⟨subnet, chosen, _⟩ := assignment.completed.served policy serving plan listed waits
    refine ⟨subnet, assignment.settles_of_subnet listed chosen ?_ ?_⟩
    · -- An explicit address would make the segment an explicit one.
      intro entry reserved
      obtain ⟨request, _, same, describes⟩ := assignment.request listed
      have entries : request.reserved = plan.reserved := congrArg (·.reserved) same
      have onSegment := List.mem_map_of_mem (f := Prod.fst) reserved
      rw [← entries, describes.reserved, List.mem_filter] at onSegment
      exact absurd (.inr ⟨entry.1, onSegment⟩) explicit
    · intro connection onSegment text given
      exact absurd (.inl ⟨connection, onSegment, by simp [given]⟩) explicit

/-- Keys of different plans differ when the keys of a plan are members of its segment
and different segments of the layer have no member in common. -/
theorem Assignment.nodup_keys (assignment : Assignment config layer network after plans final)
    (divided : network.Divided) (keys : SegmentPlan → List Nat)
    (members : Segment → List Nat)
    (once : ∀ plan ∈ final, (keys plan).Nodup)
    (bounded : ∀ plan ∈ final, keys plan ⊆ members (network.segment plan.segment))
    (apart : ∀ left right, Apart left right → (members left).Disjoint (members right)) :
    (final.flatMap keys).Nodup := by
  refine List.nodup_flatMap.mpr ⟨once, ?_⟩
  have different : final.Pairwise fun left right => left.segment ≠ right.segment :=
    List.pairwise_map.mp assignment.once
  apply different.imp_of_mem
  intro left right leftListed rightListed different key leftKey rightKey
  have leftMember := ((assignment.mem_iff _).mp (List.mem_map_of_mem leftListed)).1
  have rightMember := ((assignment.mem_iff _).mp (List.mem_map_of_mem rightListed)).1
  have leftLayer := (List.mem_filter.mp leftMember).2
  have rightLayer := (List.mem_filter.mp rightMember).2
  rw [beq_iff_eq] at leftLayer rightLayer
  have segments := divided.apart _ _ (lt_of_mem_segmentsIn leftMember)
    (lt_of_mem_segmentsIn rightMember) different (leftLayer.trans rightLayer.symm)
  exact apart _ _ segments (bounded left leftListed leftKey) (bounded right rightListed rightKey)

/-- The parameters of an address have different names. -/
theorem addressParameters_once (layer : String) (subnet : Subnet) (address : Address) :
    ((addressParameters layer subnet address).map Prod.fst).Nodup := by
  simp [addressParameters, subnetParameters, addressKey, subnetKey, lengthKey]

/-- No parameter of a subnet is written twice. -/
theorem subnetParameters_once (layer : String) (subnet : Subnet) :
    ((subnetParameters layer subnet).map Prod.fst).Nodup := by
  simp [subnetParameters, subnetKey, lengthKey]

/-- An interface to which an address of a subnet was written has that address. -/
theorem hasAddress_of_addressed {port : InterfaceId} {subnet : Subnet} {address : Address}
    (wrote : after.interface port =
      addressed layer.name (port, subnet, address) (network.interface port))
    (inside : subnet.contains address = true) : after.HasAddress layer subnet port address := by
  have look : ∀ key value, (key, value) ∈ addressParameters layer.name subnet address →
      (after.interface port).parameters.get? key = some value := by
    intro key value listed
    rw [wrote]
    exact Table.getElem?_setAll_of_mem (addressParameters_once layer.name subnet address) listed
  have text : after.givenAddress? layer port = some address.text :=
    look _ _ (by simp [addressParameters])
  refine ⟨text, ?_, ?_, ?_, inside⟩
  · simp [address?, text, Address.parseHost?_text]
  · exact look _ _ (by simp [addressParameters, subnetParameters])
  · exact look _ _ (by simp [addressParameters, subnetParameters])

/-- A connection has the subnet of its segment unless it had one, which must be the same. -/
theorem parse_of_linked {connection : ConnectionId} {subnet : Subnet}
    (wrote : after.connection connection =
      linked layer.name (connection, subnet) (network.connection connection))
    (agrees : ∀ text, network.givenSubnet? layer connection = some text →
      Subnet.parse text = .ok subnet) :
    ∃ text, after.givenSubnet? layer connection = some text ∧ Subnet.parse text = .ok subnet := by
  have look : after.givenSubnet? layer connection =
      ((network.connection connection).parameters.own.insertIfNew (subnetKey layer.name)
        subnet.text)[subnetKey layer.name]? := by
    rw [givenSubnet?, wrote]
    rfl
  rw [Std.ExtTreeMap.getElem?_insertIfNew] at look
  cases had : network.givenSubnet? layer connection with
  | none =>
    have absent : subnetKey layer.name ∉ (network.connection connection).parameters.own := by
      rw [Std.ExtTreeMap.mem_iff_isSome_getElem?]
      simpa [givenSubnet?, Parameters.get?] using had
    refine ⟨subnet.text, ?_, subnet.parse_text⟩
    simpa [absent] using look
  | some text =>
    have present : subnetKey layer.name ∈ (network.connection connection).parameters.own := by
      rw [Std.ExtTreeMap.mem_iff_isSome_getElem?]
      exact Option.isSome_iff_exists.mpr ⟨text, had⟩
    refine ⟨text, ?_, agrees text had⟩
    rw [look, if_neg fun missing => missing.2 present]
    exact had

section Written

variable (assignment : Assignment config layer network after plans final)
  (divided : network.Divided)

include assignment divided

/-- The segment of a plan consists of objects of the network. -/
theorem Assignment.bounded (listed : plan ∈ final) :
    network.Bounded (network.segment plan.segment) := by
  have onLayer := ((assignment.mem_iff _).mp (List.mem_map_of_mem listed)).1
  exact divided.bounded _ (lt_of_mem_segmentsIn onLayer)

variable (valid : config.validate = .ok ()) (member : layer ∈ config.layers)

include valid member

/-- What was written to an interface. -/
theorem Assignment.interface (listed : plan ∈ final) {entry : InterfaceId × Subnet × Address}
    (given : entry ∈ plan.addresses) :
    after.interface entry.1 = addressed layer.name entry (network.interface entry.1) := by
  have perm : ∀ other ∈ final,
      (other.addresses.map Prod.fst).Perm (network.segment other.segment).interfaces := by
    intro other otherListed
    obtain ⟨subnet, hosts, settles⟩ := assignment.exists_settles valid member otherListed
    exact settles.interfaces_perm
  have once : ((final.flatMap SegmentPlan.addresses).map Prod.fst).Nodup := by
    rw [List.map_flatMap]
    refine assignment.nodup_keys divided _ (·.interfaces) ?_ ?_ fun _ _ apart => apart.1
    · intro other otherListed
      have bounded := assignment.bounded divided otherListed
      exact (perm other otherListed).nodup_iff.mpr bounded.interfacesOnce
    · exact fun other otherListed => (perm other otherListed).subset
  have onSegment : entry.1 ∈ (network.segment plan.segment).interfaces :=
    (perm plan listed).subset (List.mem_map_of_mem given)
  have inside := (assignment.bounded divided listed).interfaces entry.1 onSegment
  rw [assignment.wrote]
  exact interface_written once (List.mem_flatMap.mpr ⟨plan, listed, given⟩) inside

/-- What was written to a connection. -/
theorem Assignment.connection (listed : plan ∈ final) {entry : ConnectionId × Subnet}
    (given : entry ∈ plan.links network) :
    after.connection entry.1 = linked layer.name entry (network.connection entry.1) := by
  have keys : ∀ other ∈ final, (other.links network).map Prod.fst =
      (network.segment other.segment).connections := by
    intro other otherListed
    obtain ⟨subnet, hosts, settles⟩ := assignment.exists_settles valid member otherListed
    rw [settles.links_eq, List.map_map]
    exact List.map_id _
  have once : ((final.flatMap (SegmentPlan.links network)).map Prod.fst).Nodup := by
    rw [List.map_flatMap]
    refine assignment.nodup_keys divided _ (·.connections) ?_ ?_ fun _ _ apart => apart.2
    · intro other otherListed
      rw [keys other otherListed]
      exact (assignment.bounded divided otherListed).connectionsOnce
    · intro other otherListed
      rw [keys other otherListed]
      exact List.Subset.refl _
  have onSegment : entry.1 ∈ (network.segment plan.segment).connections := by
    rw [← keys plan listed]
    exact List.mem_map_of_mem given
  have inside := (assignment.bounded divided listed).connections entry.1 onSegment
  rw [assignment.wrote]
  exact connection_written once (List.mem_flatMap.mpr ⟨plan, listed, given⟩) inside

/-- An interface of a segment has the address that the plan gives it. -/
theorem Assignment.exists_hasAddress (listed : plan ∈ final) {subnet : Subnet}
    {hosts : List Address} (settles : plan.Settles network layer subnet hosts)
    {port : InterfaceId} (onSegment : port ∈ (network.segment plan.segment).interfaces) :
    ∃ address, (port, address) ∈ plan.waiting.zip hosts ++ plan.reserved ∧
      after.HasAddress layer subnet port address := by
  obtain ⟨address, given⟩ := settles.exists_address onSegment
  have entry : (port, subnet, address) ∈ plan.addresses := by
    rw [settles.addresses_eq]
    exact List.mem_map_of_mem (f := fun entry => (entry.1, subnet, entry.2)) given
  have wrote := assignment.interface divided valid member listed entry
  exact ⟨address, given, hasAddress_of_addressed wrote (settles.contains given)⟩

/-- The segment of a plan is addressed as the plan says. -/
theorem Assignment.addressedSegment (listed : plan ∈ final) {subnet : Subnet}
    {hosts : List Address} (settles : plan.Settles network layer subnet hosts) :
    AddressedSegment network after layer plan.segment subnet := by
  have segment := assignment.segment listed settles.chosen
  have look : ∀ key value, (key, value) ∈ subnetParameters layer.name subnet →
      (after.segment plan.segment).parameters.get? key = some value := by
    intro key value listed
    rw [segment]
    exact Table.getElem?_setAll_of_mem (subnetParameters_once layer.name subnet) listed
  have interfaces : (after.segment plan.segment).interfaces =
      (network.segment plan.segment).interfaces := congrArg (·.interfaces) segment
  have connections : (after.segment plan.segment).connections =
      (network.segment plan.segment).connections := congrArg (·.connections) segment
  have given (port : InterfaceId) (onSegment : port ∈ (after.segment plan.segment).interfaces) :=
    assignment.exists_hasAddress divided valid member listed settles (interfaces ▸ onSegment)
  constructor
  case bound => exact congrArg (·.subnet) segment
  case subnetText => exact look _ _ (by simp [subnetParameters])
  case lengthText => exact look _ _ (by simp [subnetParameters])
  case interfaces =>
    intro port onSegment
    obtain ⟨address, _, has⟩ := given port onSegment
    exact ⟨address, has⟩
  case kept =>
    intro port onSegment explicit
    obtain ⟨address, entry, has⟩ := given port onSegment
    rw [has.read, settles.addresses _ (settles.mem_reserved entry explicit)]
  case hosts =>
    intro port onSegment free address read
    obtain ⟨found, entry, has⟩ := given port onSegment
    cases has.read.symm.trans read
    have host := (List.of_mem_zip (settles.mem_zip entry free)).2
    exact (Subnet.isUsable_iff.mp (settles.chosenHosts.usable address host)).2
  case distinct =>
    intro port onSegment free other otherOnSegment different same
    obtain ⟨address, entry, has⟩ := given port onSegment
    obtain ⟨otherAddress, otherEntry, otherHas⟩ := given other otherOnSegment
    rw [has.read, otherHas.read, Option.some.injEq] at same
    subst same
    exact different (settles.eq_of_address entry otherEntry free)
  case connections =>
    intro connection onSegment
    rw [connections] at onSegment
    have entry : (connection, subnet) ∈ plan.links network := by
      rw [settles.links_eq]
      exact List.mem_map_of_mem (f := fun id => (id, subnet)) onSegment
    have wrote := assignment.connection divided valid member listed entry
    exact parse_of_linked wrote (settles.connections connection onSegment)

end Written

/-- After an assignment every segment of the layer with interfaces is addressed. -/
theorem addressed_segment (valid : config.validate = .ok ()) (member : layer ∈ config.layers)
    (searched : Searched config network)
    (run : (assignSegments config layer).outcome network = (.ok (), after))
    {id : SegmentId} (listed : id ∈ after.segmentsIn layer.name)
    (inhabited : (after.segment id).interfaces ≠ []) :
    ∃ subnet, AddressedSegment network after layer id subnet := by
  obtain ⟨plans, final, assignment⟩ := assignment_of_outcome valid member run
  have divided := (partitioned_of_searched valid searched).divided
  rw [assignment.wrote] at listed inhabited
  rw [segmentsIn_written] at listed
  rw [segment_written_field (·.interfaces) fun _ _ => rfl] at inhabited
  obtain ⟨plan, planned, rfl⟩ := assignment.exists_plan listed inhabited
  obtain ⟨subnet, hosts, settles⟩ := assignment.exists_settles valid member planned
  exact ⟨subnet, assignment.addressedSegment divided valid member planned settles⟩

end Addressing

namespace Campus

open Addressing Network

/-- Explicit data give the second segment its subnet, and its interfaces get the hosts
of it in turn. -/
theorem addressed_segment_of_label :
    1 ∈ addressed.segmentsIn config.layer.name ∧ (addressed.segment 1).interfaces ≠ [] ∧
      (addressed.segment 1).interfaces.map (addressed.givenAddress? config.layer) =
        [some "10.0.0.1", some "10.0.0.2"] ∧
      ∃ subnet, AddressedSegment searched addressed config.layer 1 subnet := by
  have listed : 1 ∈ addressed.segmentsIn config.layer.name := by decide +kernel
  have inhabited : (addressed.segment 1).interfaces ≠ [] := by decide +kernel
  exact ⟨listed, inhabited, by decide +kernel,
    addressed_segment config_valid List.mem_cons_self searched_searched addressed_eq listed
      inhabited⟩

end Campus

end TopoPlan
