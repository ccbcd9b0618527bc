import TopoPlan.Proofs.Network.Readdressing

/-!
# Addresses of management interfaces

All that no management interface may get is bound in one pool before any address is handed
out: the ends of the range, the gateway, and the addresses that management interfaces have
already.  The main statement, `managementAssigned`, says what these interfaces have
afterwards, and that nothing else changes.
-/

namespace TopoPlan

namespace Addressing

open Network Stage

/-- The gateway of the management range: the configured one, or the first host. -/
def IsGateway (management : ManagementLayer) (range : Subnet) (gateway : Address) : Prop :=
  match management.gateway with
  | some text => Address.parseHost? text = some gateway
  | none => gateway.family = range.family ∧ gateway.value = range.network.value + 1

/-- A management interface has an address, with the range and its length, and otherwise
all that it had before. -/
structure Receives (management : ManagementLayer) (range : Subnet) (address : Address)
    (before after : Interface) : Prop where
  address : after.parameters.get? (addressKey management.name) = some address.text
  subnet : after.parameters.get? (subnetKey management.name) = some range.text
  length : after.parameters.get? (lengthKey management.name) = some (Numeral.text range.length)
  parameters : ∀ key, key ∉ addressKeys management.name →
    after.parameters.get? key = before.parameters.get? key
  fields : after =
    { before with parameters := { before.parameters with own := after.parameters.own } }

/-- What an assignment of management addresses does. -/
structure ManagementAssigned (management : ManagementLayer) (range : Subnet) (gateway : Address)
    (before after : Network) : Prop where
  /-- An interface with an address keeps it. -/
  kept : ∀ id ∈ before.managementIds, ∀ text, before.managementText? management id = some text →
    ∃ address, Address.parseHost? text = some address ∧
      Receives management range address (before.interface id) (after.interface id)
  /-- An interface without one gets a host of the range, which is neither the gateway nor the
  address of another management interface. -/
  given : ∀ id ∈ before.managementIds, before.managementText? management id = none →
    ∃ address, Receives management range address (before.interface id) (after.interface id) ∧
      HostOf range address ∧ address ≠ gateway ∧
      ∀ other ∈ before.managementIds, other ≠ id →
        after.managementAddress? management other ≠ some address
  others : ∀ id, id ∉ before.managementIds → after.interface id = before.interface id
  size : after.interfaces.size = before.interfaces.size
  rest : after = { before with interfaces := after.interfaces }

variable {config : Config} {management : ManagementLayer} {network after : Network}
  {range : Subnet} {gateway address : Address} {id : InterfaceId}

/-- The gateway that is found is the one described. -/
theorem isGateway_of_gatewayOf (found : gatewayOf management range = .ok gateway) :
    IsGateway management range gateway := by
  unfold gatewayOf at found
  unfold IsGateway
  cases given : management.gateway with
  | some text =>
    rw [given] at found
    exact SegmentPlan.readAddress_eq_ok found
  | none =>
    rw [given] at found
    dsimp only at found
    split at found
    case h_1 first next =>
      cases found
      unfold Address.next? Address.ofNat? at next
      split at next
      case isTrue =>
        cases next
        exact ⟨rfl, rfl⟩
      case isFalse => cases next
    case h_2 => cases found

/-! ## What is written -/

/-- An interface that is written to receives its address. -/
theorem receives_addressed (management : ManagementLayer) (range : Subnet) (address : Address)
    (id : InterfaceId) (interface : Interface) :
    Receives management range address interface
      (addressed management.name (id, range, address) interface) := by
  have written {entry : String × String}
      (listed : entry ∈ addressParameters management.name range address) :
      (interface.parameters.setAll (addressParameters management.name range address)).get?
        entry.1 = some entry.2 :=
    Table.getElem?_setAll_of_mem (addressParameters_once management.name range address) listed
  constructor
  case address => exact written List.mem_cons_self
  case subnet => exact written (List.mem_cons_of_mem _ List.mem_cons_self)
  case length =>
    exact written (List.mem_cons_of_mem _ (List.mem_cons_of_mem _ List.mem_cons_self))
  case parameters => exact fun key other => interface.parameters.get?_setAll_of_not_mem other
  case fields => rfl

section Entries

variable {entries : List (InterfaceId × Address)}

/-- The range stands beside the interfaces without changing their order. -/
theorem map_fst_located (range : Subnet) (entries : List (InterfaceId × Address)) :
    (entries.map fun entry => (entry.1, range, entry.2)).map Prod.fst = entries.map Prod.fst := by
  rw [List.map_map]
  rfl

/-- Each of several interfaces gets its own address. -/
theorem receives_foldl (once : (entries.map Prod.fst).Nodup) (listed : (id, address) ∈ entries)
    (inside : id < network.interfaces.size) :
    Receives management range address (network.interface id)
      ((entries.foldl (giveAddress management.name range) network).interface id) := by
  rw [← map_fst_located range] at once
  rw [foldl_giveAddress, interface_written once (List.mem_map_of_mem listed) inside]
  exact receives_addressed management range address id (network.interface id)

/-- Interfaces that get no address stay as they are. -/
theorem interface_foldl_of_not_mem (absent : id ∉ entries.map Prod.fst) :
    (entries.foldl (giveAddress management.name range) network).interface id =
      network.interface id := by
  rw [← map_fst_located range] at absent
  rw [foldl_giveAddress]
  exact getD_foldl_modify_of_not_mem Prod.fst (addressed management.name) network.interfaces
    default absent

/-- Addresses are written to interfaces alone. -/
theorem foldl_giveAddress_rest (name : String) (range : Subnet) (network : Network)
    (entries : List (InterfaceId × Address)) :
    let after := entries.foldl (giveAddress name range) network
    after.interfaces.size = network.interfaces.size ∧
      after = { network with interfaces := after.interfaces } := by
  dsimp only
  rw [foldl_giveAddress]
  exact ⟨size_foldl_modify Prod.fst (addressed name) network.interfaces _, rfl⟩

end Entries

/-- An interface has the management address that it received. -/
theorem Receives.managementAddress?
    (receives : Receives management range address (network.interface id) (after.interface id)) :
    after.managementAddress? management id = some address := by
  rw [Network.managementAddress?, managementText?, receives.address, Option.bind_some,
    Address.parseHost?_text]

/-! ## The assignment -/

/-- What is written: to each management interface the address that it has, or that of a block
with a free number of its own. -/
structure Allotted (management : ManagementLayer) (network : Network) (start pool : Pool)
    (entries : List (InterfaceId × Address)) (number : InterfaceId → Nat) : Prop
    extends Dealt pool (network.waitingForManagement management) number where
  binds : Pool.Binds start pool
    (Occupied (network.managementAddress? management) start network.managementIds)
  perm : (entries.map Prod.fst).Perm network.managementIds
  reads : ∀ id ∈ network.managementIds, ∀ text, network.managementText? management id = some text →
    ∃ address, Address.parseHost? text = some address
  explicit : ∀ id ∈ network.managementIds, ∀ address,
    network.managementAddress? management id = some address → (id, address) ∈ entries
  automatic : ∀ id ∈ network.waitingForManagement management,
    (id, (pool.block (number id)).network) ∈ entries

/-- The management interfaces, as they are collected, and the blocks taken for those that
wait. -/
theorem allotted_of_take {start : Pool} {state : ManagementState} {blocks : List Subnet}
    (sound : start.Sound) (collect : managementState network management start = .ok state)
    (take : (state.pool.take state.waiting.length).1 = .ok blocks) :
    Allotted management network start state.pool
      (state.assigned ++ state.waiting.zip (blocks.map (·.network)))
      fun id => state.pool.freeIndices.getD (state.waiting.idxOf id) 0 := by
  obtain ⟨binds, assigned, waiting, reads⟩ := managementState_eq_ok sound collect
  have perm := perm_of_managementState sound collect
  obtain ⟨enough, rfl⟩ := binds.sound.blocks_of_take take
  have dealt := dealt_of_enough enough
  constructor
  case toDealt => rwa [waiting] at dealt ⊢
  case binds => exact binds
  case perm =>
    rw [List.map_append, List.map_fst_zip]
    · exact perm
    · rw [List.length_map, List.length_map, List.length_take, Nat.min_eq_left enough]
  case reads => exact reads
  case explicit =>
    intro id listed address has
    rw [assigned]
    refine List.mem_append_left _ (List.mem_filterMap.mpr ⟨id, listed, ?_⟩)
    rw [has, Option.map_some]
  case automatic =>
    intro id listed
    rw [← waiting] at listed
    rw [List.zip_map_right]
    exact List.mem_append_right _ (List.mem_map.mpr ⟨_, dealt.paired id listed, rfl⟩)

section Allotted

variable {start pool : Pool} {entries : List (InterfaceId × Address)}
  {number : InterfaceId → Nat} (allotted : Allotted management network start pool entries number)

include allotted

/-- Every management interface is written to once. -/
theorem Allotted.receives (listed : id ∈ network.managementIds) (entry : (id, address) ∈ entries) :
    Receives management range address (network.interface id)
      ((entries.foldl (giveAddress management.name range) network).interface id) :=
  receives_foldl (allotted.perm.nodup_iff.mpr (List.nodup_range.filter _)) entry
    (List.mem_range.mp (List.mem_filter.mp listed).1)

/-- The address of an interface that waits is not the one of another interface. -/
theorem Allotted.alone (waits : id ∈ network.waitingForManagement management)
    {other : InterfaceId} (listed : other ∈ network.managementIds) (different : other ≠ id) :
    (entries.foldl (giveAddress management.name range) network).managementAddress? management
      other ≠ some (pool.block (number id)).network := by
  cases text : network.managementText? management other with
  | none =>
    have otherWaits := mem_waitingForManagement.mpr ⟨listed, text⟩
    rw [(allotted.receives listed (allotted.automatic other otherWaits)).managementAddress?]
    intro same
    exact allotted.network_ne otherWaits waits different (Option.some.inj same)
  | some given =>
    obtain ⟨address, parsed⟩ := allotted.reads other listed given text
    have has := managementAddress?_of_text text parsed
    rw [(allotted.receives listed (allotted.explicit other listed address has)).managementAddress?]
    intro same
    -- The address of the other interface was bound before any was handed out.
    exact ne_of_occupied allotted.binds (allotted.free id waits) listed has
      (Option.some.inj same).symm

end Allotted

/-- Once management addresses have been assigned, every management interface has an address,
with the range and its length.  Addresses that were given explicitly stay; any other one is a
host of the range, and neither the gateway nor the address of another management interface.
Nothing else changes. -/
theorem managementAssigned (configured : config.management = some management)
    (run : (assignManagement config).outcome network = (.ok (), after)) :
    ∃ range gateway, Subnet.parse management.range = .ok range ∧
      IsGateway management range gateway ∧
      ManagementAssigned management range gateway network after := by
  obtain ⟨range, read, pool, made, state, collect, blocks, take, rfl⟩ :=
    (assignManagement_eq_ok configured).mp run
  obtain ⟨hosts, gateway, found, guarded⟩ := hostPool_of_managementPool made
  have allotted := allotted_of_take hosts.sound collect take
  let entries := state.assigned ++ state.waiting.zip (blocks.map (·.network))
  obtain ⟨size, rest⟩ := foldl_giveAddress_rest management.name range network entries
  refine ⟨range, gateway, SegmentPlan.readSubnet_eq_ok read, isGateway_of_gatewayOf found, ?_⟩
  constructor
  case kept =>
    intro id listed text given
    obtain ⟨address, parsed⟩ := allotted.reads id listed text given
    have has := managementAddress?_of_text given parsed
    exact ⟨address, parsed, allotted.receives listed (allotted.explicit id listed address has)⟩
  case given =>
    intro id listed free
    have waits := mem_waitingForManagement.mpr ⟨listed, free⟩
    have unbound := allotted.free id waits
    refine ⟨_, allotted.receives listed (allotted.automatic id waits),
      (hosts.binds allotted.binds).hostOf unbound, ?_,
      fun other otherListed different => allotted.alone waits otherListed different⟩
    rw [allotted.binds.block]
    exact guarded _ (allotted.binds.mem_freeIndices.mp unbound).1
  case others =>
    intro id other
    exact interface_foldl_of_not_mem fun listed => other (allotted.perm.mem_iff.mp listed)
  case size => exact size
  case rest => exact rest

end Addressing

namespace Rack

open Network Addressing

/-- The network of management interfaces. -/
def management : ManagementLayer := { name := "oob", range := "192.168.0.0/29" }

/-- The management interface of a console has an explicit address. -/
def config : Config where
  name := "rack"
  management := some management
  nodeClasses := [{ name := "server", primary := true, managementClass := some "any" },
    { name := "console", primary := true, managementClass := some "fixed" }]
  interfaceClasses := [{ name := "any" },
    { name := "fixed", values := ({} : Table Value).insert "oob_addr" (.text "192.168.0.2") }]

/-- Two servers and a console. -/
def topology : Topology where
  nodes := [{ name := "a", labels := ["server"] }, { name := "b", labels := ["server"] },
    { name := "c", labels := ["console"] }]

/-- The network of the topology after resolution. -/
def resolved : Network :=
  ((resolve config {}).outcome ((ofTopology config topology).toOption.getD {})).2

/-- The network with management addresses. -/
def assigned : Network := ((assignManagement config).outcome resolved).2

/-- The servers get the addresses after the gateway, which is the first host, but for the one
that the console has. -/
theorem managementAssigned_of_console :
    config.management = some management ∧
      (assignManagement config).outcome resolved = (.ok (), assigned) ∧
      (∃ range gateway, Subnet.parse management.range = .ok range ∧
        IsGateway management range gateway ∧
        ManagementAssigned management range gateway resolved assigned) ∧
      [0, 1, 2].map (fun id => ["oob_addr", "oob_net", "oob_plen"].map
          (assigned.interface id).parameters.get?) =
        [[some "192.168.0.3", some "192.168.0.0/29", some "29"],
          [some "192.168.0.4", some "192.168.0.0/29", some "29"],
          [some "192.168.0.2", some "192.168.0.0/29", some "29"]] := by
  have run : (assignManagement config).outcome resolved = (.ok (), assigned) :=
    Stage.outcome_eq_ok (by decide +kernel)
  exact ⟨rfl, run, managementAssigned rfl run, by decide +kernel⟩

end Rack

end TopoPlan
