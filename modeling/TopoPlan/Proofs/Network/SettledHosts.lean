import TopoPlan.Proofs.Network.HostPools

/-!
# Settled loopbacks and management interfaces

Loopbacks of a policy are settled when every node of the policy has one and all can be
read.  Management interfaces are settled when each has an address and the range as it is
written.  Assignments settle both, and change nothing once they are settled:
`assignLoopbacks_of_settled` and `assignManagement_of_settled`.
-/

namespace TopoPlan

namespace Network

/-- The loopback address of a node in a layer, as it is given. -/
def loopback? (network : Network) (layer : Layer) (id : NodeId) : Option String :=
  (network.node id).parameters.get? (loopbackKey layer.name)

/-- The loopback address of a node in a layer, as it is read. -/
def loopbackAddress? (network : Network) (layer : Layer) (id : NodeId) : Option Address :=
  (network.loopback? layer id).bind Address.parseHost?

/-- The nodes that wait for a loopback address of a policy. -/
def waitingFor (network : Network) (layer : Layer) (policy : Policy) : List NodeId :=
  network.nodeIds.filter fun id =>
    (network.loopback? layer id).isNone &&
      (network.node id).policies[layer.name]? == some policy.name

/-- The management interfaces. -/
def managementIds (network : Network) : List InterfaceId :=
  network.interfaceIds.filter fun id => (network.interface id).isManagement

/-- The address of a management interface, as it is given. -/
def managementText? (network : Network) (management : ManagementLayer) (id : InterfaceId) :
    Option String :=
  (network.interface id).parameters.get? (addressKey management.name)

/-- The address of a management interface, as it is read. -/
def managementAddress? (network : Network) (management : ManagementLayer) (id : InterfaceId) :
    Option Address :=
  (network.managementText? management id).bind Address.parseHost?

/-- The management interfaces that wait for an address. -/
def waitingForManagement (network : Network) (management : ManagementLayer) :
    List InterfaceId :=
  network.managementIds.filter fun id => (network.managementText? management id).isNone

/-- A text that is a host address gives the management address. -/
theorem managementAddress?_of_text {network : Network} {management : ManagementLayer}
    {id : InterfaceId} {text : String} {address : Address}
    (given : network.managementText? management id = some text)
    (parsed : Address.parseHost? text = some address) :
    network.managementAddress? management id = some address := by
  rw [managementAddress?, given, Option.bind_some, parsed]

/-- The management interfaces that wait are those without an address. -/
theorem mem_waitingForManagement {network : Network} {management : ManagementLayer}
    {id : InterfaceId} : id ∈ network.waitingForManagement management ↔
      id ∈ network.managementIds ∧ network.managementText? management id = none := by
  rw [waitingForManagement, List.mem_filter, Option.isNone_iff_eq_none]

/-- The frame of stages that give nodes no parameters but addresses. -/
def nodesAddressed : Frame where
  holds before after := after.nodes.size = before.nodes.size ∧
    ∀ id, (after.node id).policies = (before.node id).policies ∧
      ∀ key, (after.node id).parameters.get? key = (before.node id).parameters.get? key ∨
        ∃ address : Address, (after.node id).parameters.get? key = some address.text
  refl _ := ⟨rfl, fun _ => ⟨rfl, fun _ => .inl rfl⟩⟩
  trans := by
    rintro first second third ⟨size, each⟩ ⟨sizeMore, more⟩
    refine ⟨sizeMore.trans size, fun id => ⟨(more id).1.trans (each id).1, fun key => ?_⟩⟩
    rcases (more id).2 key with same | changed
    · rw [same]
      exact (each id).2 key
    · exact .inr changed

/-- Nodes that stay the same are given no parameters. -/
theorem nodesAddressed_of_nodes {before after : Network} (same : after.nodes = before.nodes) :
    nodesAddressed.holds before after := by
  have nodes (id : NodeId) : after.node id = before.node id := by rw [node, same, node]
  exact ⟨congrArg Array.size same, fun id => ⟨congrArg Node.policies (nodes id),
    fun key => .inl (congrArg (·.parameters.get? key) (nodes id))⟩⟩

section Nodes

variable {before after : Network} (same : nodesAddressed.holds before after) (layer : Layer)
  (id : NodeId)

include same

/-- A loopback address stays, or there is a new one. -/
theorem loopback?_cases : after.loopback? layer id = before.loopback? layer id ∨
    ∃ address : Address, after.loopback? layer id = some address.text :=
  (same.2 id).2 (loopbackKey layer.name)

/-- A loopback that is there stays there. -/
theorem isSome_loopback? (given : (before.loopback? layer id).isSome = true) :
    (after.loopback? layer id).isSome = true := by
  rcases loopback?_cases same layer id with kept | ⟨address, changed⟩
  · rw [kept]
    exact given
  · rw [changed]
    rfl

/-- Loopback addresses can be read when those before could. -/
theorem exists_parse_loopback? (read : ∀ text, before.loopback? layer id = some text →
    ∃ address, Address.parseHost? text = some address) :
    ∀ text, after.loopback? layer id = some text →
      ∃ address, Address.parseHost? text = some address := by
  intro text given
  rcases loopback?_cases same layer id with kept | ⟨address, changed⟩
  · exact read text (kept.symm.trans given)
  · cases changed.symm.trans given
    exact ⟨address, address.parseHost?_text⟩

end Nodes

end Network

namespace Addressing

open Network Stage

variable {network after : Network} {config : Config} {layer : Layer} {policy : Policy}

/-! ## Loopbacks -/

/-- Give a node its loopback address. -/
def giveLoopback (layer : String) (network : Network) (entry : NodeId × Subnet) : Network :=
  network.updateNode entry.1 fun node =>
    { node with parameters := node.parameters.set (loopbackKey layer) entry.2.network.text }

/-- The parts of an assignment of loopbacks. -/
theorem assignLoopbacks_eq_ok :
    (assignLoopbacks layer policy).outcome network = (.ok (), after) ↔
      ∃ range, readSubnet policy.range = .ok range ∧ ∃ pool, hostPool policy.name range = .ok pool ∧
        ∃ state, loopbackState network layer policy pool = .ok state ∧
          ∃ blocks, (state.1.take state.2.length).1 = .ok blocks ∧
            after = (state.2.zip blocks).foldl (giveLoopback layer.name) network := by
  simp only [assignLoopbacks, outcome_get_bind, outcome_ofExcept_bind_eq_ok, outcome_set_eq_ok]
  rfl

/-- The nodes that wait for a policy have it and no loopback. -/
theorem mem_waitingFor {id : NodeId} : id ∈ network.waitingFor layer policy ↔
    id < network.nodes.size ∧ network.loopback? layer id = none ∧
      (network.node id).policies[layer.name]? = some policy.name := by
  rw [waitingFor, List.mem_filter, nodeIds, List.mem_range, Bool.and_eq_true,
    Option.isNone_iff_eq_none, beq_iff_eq]

/-- Collecting the nodes of a policy binds the loopback addresses that there are, and finds
the nodes that wait for one. -/
theorem loopbackState_eq_ok {pool : Pool} {state : Pool × List NodeId} (sound : pool.Sound)
    (run : loopbackState network layer policy pool = .ok state) :
    Pool.Binds pool state.1 (Occupied (network.loopbackAddress? layer) pool network.nodeIds) ∧
      state.2 = network.waitingFor layer policy ∧
      ∀ id ∈ network.nodeIds, ∀ text, network.loopback? layer id = some text →
        ∃ address, Address.parseHost? text = some address := by
  let waits (id : NodeId) : Bool := (network.loopback? layer id).isNone &&
    (network.node id).policies[layer.name]? == some policy.name
  let motive (done : List NodeId) (current : Pool × List NodeId) : Prop :=
    Pool.Binds pool current.1 (Occupied (network.loopbackAddress? layer) pool done) ∧
      current.2 = done.filter waits ∧
      ∀ id ∈ done, ∀ text, network.loopback? layer id = some text →
        ∃ address, Address.parseHost? text = some address
  refine Outcome.foldlM_induction (motive := motive) run
    ⟨binds_occupied_nil sound, rfl, List.forall_mem_nil _⟩ ?_
  rintro done id ⟨current, waiting⟩ next _ ⟨binds, rfl, reads⟩ step
  dsimp only at step binds
  dsimp only [motive]
  rw [List.filter_append, List.filter_singleton]
  split at step
  case h_1 text found =>
    obtain ⟨address, read, step⟩ := Outcome.bind_eq_ok.mp step
    obtain ⟨reserved, reserve, step⟩ := Outcome.bind_eq_ok.mp step
    cases step
    have parsed : Address.parseHost? text = some address := SegmentPlan.readAddress_eq_ok read
    have known : network.loopback? layer id = some text := found
    have has : network.loopbackAddress? layer id = some address := by
      rw [loopbackAddress?, known, Option.bind_some, parsed]
    refine ⟨binds_occupied_some binds has reserve, ?_,
      List.forall_mem_append.mpr ⟨reads, List.forall_mem_singleton.mpr fun other same => ?_⟩⟩
    · rw [show waits id = false by simp [waits, known], cond_false, List.append_nil]
    · cases known.symm.trans same
      exact ⟨address, parsed⟩
  case h_2 free =>
    have known : network.loopback? layer id = none := free
    have absent : network.loopbackAddress? layer id = none := by
      rw [loopbackAddress?, known, Option.bind_none]
    have nothing := binds_occupied_none binds absent
    have all : ∀ other ∈ done ++ [id], ∀ text, network.loopback? layer other = some text →
        ∃ address, Address.parseHost? text = some address :=
      List.forall_mem_append.mpr ⟨reads, List.forall_mem_singleton.mpr
        fun text same => nomatch known.symm.trans same⟩
    have own : waits id = ((network.node id).policies[layer.name]? == some policy.name) := by
      simp [waits, known]
    rw [own]
    split at step
    case isTrue own =>
      cases step
      refine ⟨nothing, ?_, all⟩
      rw [own, cond_true]
    case isFalse other =>
      cases step
      refine ⟨nothing, ?_, all⟩
      rw [Bool.eq_false_iff.mpr other, cond_false, List.append_nil]

/-- Loopbacks of a policy are settled. -/
structure SettledLoopbacks (layer : Layer) (policy : Policy) (network : Network) : Prop where
  pool : ∃ range, readSubnet policy.range = .ok range ∧ ∃ pool, hostPool policy.name range = .ok pool
  read : ∀ id ∈ network.nodeIds, ∀ text, network.loopback? layer id = some text →
    ∃ address, Address.parseHost? text = some address
  given : ∀ id ∈ network.nodeIds,
    (network.node id).policies[layer.name]? = some policy.name →
      (network.loopback? layer id).isSome = true

/-- Addresses for nodes leave settled loopbacks settled. -/
theorem SettledLoopbacks.congr (settled : SettledLoopbacks layer policy network)
    (same : nodesAddressed.holds network after) : SettledLoopbacks layer policy after := by
  have ids : after.nodeIds = network.nodeIds := by rw [nodeIds, same.1, nodeIds]
  refine ⟨settled.pool, fun id listed => ?_, fun id listed own => ?_⟩
  · rw [ids] at listed
    exact exists_parse_loopback? same layer id (settled.read id listed)
  · rw [ids] at listed
    rw [(same.2 id).1] at own
    exact isSome_loopback? same layer id (settled.given id listed own)

/-- Assigning loopbacks that are settled changes nothing. -/
theorem assignLoopbacks_of_settled (settled : SettledLoopbacks layer policy network) :
    (assignLoopbacks layer policy).outcome network = (.ok (), network) := by
  obtain ⟨range, read, pool, made⟩ := settled.pool
  let motive (_ : List NodeId) (state : Pool × List NodeId) : Prop := state.1.Sound ∧ state.2 = []
  have collected : ∃ state, loopbackState network layer policy pool = .ok state ∧
      motive network.nodeIds state := by
    refine Outcome.exists_foldlM_induction (motive := motive)
      ⟨(HostPool.of_hostPool made).sound, rfl⟩ ?_
    rintro done id ⟨pool, waiting⟩ start ⟨sound, rfl⟩
    have listed := Outcome.mem_of_concat_prefix start
    dsimp only
    split
    case h_1 text given =>
      obtain ⟨address, parsed⟩ := settled.read id listed text given
      obtain ⟨reserved, run, binds⟩ := sound.reserveAddress address
      exact ⟨(reserved, []), Outcome.bind_eq_ok.mpr ⟨address,
        SegmentPlan.readAddress_of_parse parsed, Outcome.bind_eq_ok.mpr ⟨reserved, run, rfl⟩⟩,
        binds.sound, rfl⟩
    case h_2 free =>
      rw [if_neg]
      · exact ⟨(pool, []), rfl, sound, rfl⟩
      · intro own
        have given := settled.given id listed (beq_iff_eq.mp own)
        rw [loopback?, free] at given
        cases given
  obtain ⟨⟨guarded, waiting⟩, collect, sound, rfl⟩ := collected
  exact assignLoopbacks_eq_ok.mpr
    ⟨range, read, pool, made, (guarded, []), collect, [], sound.take_zero, rfl⟩

/-- A loopback gives a node no parameter but an address. -/
theorem nodesAddressed_giveLoopback (name : String) (network : Network)
    (entry : NodeId × Subnet) :
    nodesAddressed.holds network (giveLoopback name network entry) := by
  refine ⟨Array.size_modify, fun id => ⟨?_, fun key => ?_⟩⟩
  · have same : (giveLoopback name network entry).node id = _ := network.node_updateNode entry.1 id _
    rw [same]
    split <;> rfl
  · rw [giveLoopback, node_updateNode]
    split
    · rw [Parameters.get?_set]
      split
      · exact .inr ⟨_, rfl⟩
      · exact .inl rfl
    · exact .inl rfl

/-- A node that was given a loopback address has one. -/
theorem isSome_loopback?_foldl {entries : List (NodeId × Subnet)} {id : NodeId}
    (listed : id ∈ entries.map Prod.fst) (inside : id < network.nodes.size) :
    ((entries.foldl (giveLoopback layer.name) network).loopback? layer id).isSome = true := by
  induction entries generalizing network with
  | nil => cases listed
  | cons entry rest inductionHypothesis =>
    have size : (giveLoopback layer.name network entry).nodes.size = network.nodes.size :=
      Array.size_modify
    by_cases later : id ∈ rest.map Prod.fst
    · exact inductionHypothesis later (size.symm ▸ inside)
    · have here : id = entry.1 := (List.mem_cons.mp listed).resolve_right later
      subst here
      have given : (giveLoopback layer.name network entry).loopback? layer entry.1 =
          some entry.2.network.text := by
        rw [loopback?, giveLoopback, node_updateNode, if_pos ⟨rfl, inside⟩, Parameters.get?_set,
          if_pos rfl]
      have kept := nodesAddressed.foldl (fun current => current)
        (nodesAddressed_giveLoopback layer.name) (giveLoopback layer.name network entry) rest
      exact isSome_loopback? kept layer entry.1 (by rw [given]; rfl)

/-- An assignment of loopbacks gives nodes addresses only. -/
theorem nodesAddressed_of_assignLoopbacks
    (run : (assignLoopbacks layer policy).outcome network = (.ok (), after)) :
    nodesAddressed.holds network after := by
  obtain ⟨_, _, _, _, _, _, _, _, rfl⟩ := assignLoopbacks_eq_ok.mp run
  exact nodesAddressed.foldl (fun current => current) (nodesAddressed_giveLoopback layer.name) _ _

/-- An assignment of loopbacks settles them. -/
theorem settledLoopbacks_of_assignLoopbacks
    (run : (assignLoopbacks layer policy).outcome network = (.ok (), after)) :
    SettledLoopbacks layer policy after := by
  have addressed := nodesAddressed_of_assignLoopbacks run
  have ids : after.nodeIds = network.nodeIds := by rw [nodeIds, addressed.1, nodeIds]
  obtain ⟨range, read, pool, made, state, collect, blocks, take, rfl⟩ := assignLoopbacks_eq_ok.mp run
  obtain ⟨binds, waiting, reads⟩ := loopbackState_eq_ok (HostPool.of_hostPool made).sound collect
  have keys : (state.2.zip blocks).map Prod.fst = state.2 :=
    List.map_fst_zip (Nat.le_of_eq (binds.sound.length_of_take take).symm)
  refine ⟨⟨range, read, pool, made⟩, fun id listed => ?_, fun id listed own => ?_⟩
  · rw [ids] at listed
    exact exists_parse_loopback? addressed layer id (reads id listed)
  · rw [ids] at listed
    rw [(addressed.2 id).1] at own
    cases before : network.loopback? layer id with
    | none =>
      refine isSome_loopback?_foldl ?_ (List.mem_range.mp listed)
      rw [keys, waiting]
      exact mem_waitingFor.mpr ⟨List.mem_range.mp listed, before, own⟩
    | some text => exact isSome_loopback? addressed layer id (by rw [before]; rfl)

/-! ## Management interfaces -/

variable {management : ManagementLayer}

/-- The pool of the management range without the gateway. -/
def managementPool (management : ManagementLayer) (range : Subnet) : Except CompileError Pool := do
  let pool ← hostPool management.name range
  pool.reserveAddress (← gatewayOf management range)

/-- The pool of the management range is one of its hosts, in which the gateway is bound too. -/
theorem hostPool_of_managementPool {range : Subnet} {pool : Pool}
    (made : managementPool management range = .ok pool) :
    HostPool range pool ∧ ∃ gateway, gatewayOf management range = .ok gateway ∧
      ∀ index ∈ pool.freeIndices, (pool.block index).network ≠ gateway := by
  obtain ⟨fresh, new, made⟩ := Outcome.bind_eq_ok.mp made
  obtain ⟨gateway, found, reserved⟩ := Outcome.bind_eq_ok.mp made
  have hosts := HostPool.of_hostPool new
  obtain ⟨_, run, binds⟩ := hosts.sound.reserveAddress gateway
  cases run.symm.trans reserved
  refine ⟨hosts.binds binds, gateway, found, fun index free same => ?_⟩
  refine (binds.mem_freeIndices.mp free).2 ?_
  rw [← same, binds.block]
  exact Subnet.contains_network _

/-- The parts of an assignment of management addresses. -/
theorem assignManagement_eq_ok (configured : config.management = some management) :
    (assignManagement config).outcome network = (.ok (), after) ↔
      ∃ range, readSubnet management.range = .ok range ∧
        ∃ pool, managementPool management range = .ok pool ∧
          ∃ state, managementState network management pool = .ok state ∧
            ∃ blocks, (state.pool.take state.waiting.length).1 = .ok blocks ∧
              after = (state.assigned ++ state.waiting.zip (blocks.map (·.network))).foldl
                (giveAddress management.name range) network := by
  unfold assignManagement
  rw [configured]
  simp only [outcome_get_bind, outcome_ofExcept_bind_eq_ok, outcome_set_eq_ok, managementPool,
    Outcome.bind_eq_ok]
  constructor
  · rintro ⟨range, read, pool, made, gateway, found, guarded, reserved, rest⟩
    exact ⟨range, read, guarded, ⟨pool, made, gateway, found, reserved⟩, rest⟩
  · rintro ⟨range, read, guarded, ⟨pool, made, gateway, found, reserved⟩, rest⟩
    exact ⟨range, read, pool, made, gateway, found, guarded, reserved, rest⟩

/-- Collecting the management interfaces binds the addresses that there are, and finds the
interfaces that have one and those that wait. -/
theorem managementState_eq_ok {pool : Pool} {state : ManagementState} (sound : pool.Sound)
    (run : managementState network management pool = .ok state) :
    Pool.Binds pool state.pool
        (Occupied (network.managementAddress? management) pool network.managementIds) ∧
      state.assigned = network.managementIds.filterMap (fun id =>
        (network.managementAddress? management id).map fun address => (id, address)) ∧
      state.waiting = network.waitingForManagement management ∧
      ∀ id ∈ network.managementIds, ∀ text, network.managementText? management id = some text →
        ∃ address, Address.parseHost? text = some address := by
  let motive (done : List InterfaceId) (current : ManagementState) : Prop :=
    Pool.Binds pool current.pool (Occupied (network.managementAddress? management) pool done) ∧
      current.assigned = done.filterMap (fun id =>
        (network.managementAddress? management id).map fun address => (id, address)) ∧
      current.waiting = done.filter (fun id => (network.managementText? management id).isNone) ∧
      ∀ id ∈ done, ∀ text, network.managementText? management id = some text →
        ∃ address, Address.parseHost? text = some address
  refine Outcome.foldlM_induction (motive := motive) run
    ⟨binds_occupied_nil sound, rfl, rfl, List.forall_mem_nil _⟩ ?_
  rintro done id current next _ ⟨binds, assigned, waiting, reads⟩ step
  dsimp only [motive]
  rw [List.filterMap_append, List.filter_append, ← assigned, ← waiting, List.filter_singleton]
  split at step
  case h_1 text found =>
    obtain ⟨address, read, step⟩ := Outcome.bind_eq_ok.mp step
    obtain ⟨reserved, reserve, step⟩ := Outcome.bind_eq_ok.mp step
    cases step
    have parsed : Address.parseHost? text = some address := SegmentPlan.readAddress_eq_ok read
    have known : network.managementText? management id = some text := found
    have has := managementAddress?_of_text known parsed
    refine ⟨binds_occupied_some binds has reserve, ?_, ?_,
      List.forall_mem_append.mpr ⟨reads, List.forall_mem_singleton.mpr fun other same => ?_⟩⟩
    · rw [List.filterMap_cons, has]
      rfl
    · rw [known, Option.isNone_some, cond_false, List.append_nil]
    · cases known.symm.trans same
      exact ⟨address, parsed⟩
  case h_2 free =>
    cases step
    have known : network.managementText? management id = none := free
    have absent : network.managementAddress? management id = none := by
      rw [managementAddress?, known, Option.bind_none]
    refine ⟨binds_occupied_none binds absent, ?_, ?_, List.forall_mem_append.mpr
      ⟨reads, List.forall_mem_singleton.mpr fun text same => nomatch known.symm.trans same⟩⟩
    · rw [List.filterMap_cons, absent]
      exact (List.append_nil _).symm
    · rw [known, Option.isNone_none, cond_true]

/-- Each management interface either has an address that was read, or waits. -/
theorem perm_of_managementState {pool : Pool} {state : ManagementState} (sound : pool.Sound)
    (run : managementState network management pool = .ok state) :
    (state.assigned.map Prod.fst ++ state.waiting).Perm network.managementIds := by
  obtain ⟨_, assigned, waiting, reads⟩ := managementState_eq_ok sound run
  have given : state.assigned.map Prod.fst =
      network.managementIds.filter fun id => !(network.managementText? management id).isNone := by
    rw [assigned, List.map_filterMap, ← List.filterMap_eq_filter]
    refine List.filterMap_congr fun id listed => ?_
    cases known : network.managementText? management id with
    | none => simp [managementAddress?, known, Option.guard]
    | some text =>
      obtain ⟨address, parsed⟩ := reads id listed text known
      simp [managementAddress?, known, parsed, Option.guard]
  rw [given, waiting]
  exact List.perm_append_comm.trans (List.filter_append_perm _ _)

/-- Management interfaces are settled. -/
structure SettledManagement (management : ManagementLayer) (range : Subnet) (network : Network) :
    Prop where
  read : readSubnet management.range = .ok range
  pool : ∃ pool, managementPool management range = .ok pool
  given : ∀ id ∈ network.managementIds, ∃ address,
    ∀ entry ∈ addressParameters management.name range address,
      (network.interface id).parameters.get? entry.1 = some entry.2

/-- Assigning management addresses that are settled changes nothing. -/
theorem assignManagement_of_settled (configured : config.management = some management)
    {range : Subnet} (settled : SettledManagement management range network) :
    (assignManagement config).outcome network = (.ok (), network) := by
  obtain ⟨pool, made⟩ := settled.pool
  let motive (_ : List InterfaceId) (state : ManagementState) : Prop :=
    state.pool.Sound ∧ state.waiting = [] ∧ ∀ given ∈ state.assigned,
      ∀ entry ∈ addressParameters management.name range given.2,
        (network.interface given.1).parameters.get? entry.1 = some entry.2
  have collected : ∃ state, managementState network management pool = .ok state ∧
      motive network.managementIds state := by
    refine Outcome.exists_foldlM_induction (motive := motive)
      ⟨(hostPool_of_managementPool made).1.sound, rfl, List.forall_mem_nil _⟩ ?_
    rintro done id state start ⟨sound, waiting, there⟩
    obtain ⟨address, parameters⟩ := settled.given id (Outcome.mem_of_concat_prefix start)
    obtain ⟨reserved, run, binds⟩ := sound.reserveAddress address
    have given : (network.interface id).parameters.get? (addressKey management.name) =
        some address.text := parameters _ List.mem_cons_self
    rw [given]
    refine ⟨_, Outcome.bind_eq_ok.mpr ⟨address,
      SegmentPlan.readAddress_of_parse address.parseHost?_text,
      Outcome.bind_eq_ok.mpr ⟨reserved, run, rfl⟩⟩, binds.sound, waiting, ?_⟩
    exact List.forall_mem_append.mpr ⟨there, List.forall_mem_singleton.mpr parameters⟩
  obtain ⟨state, collect, sound, waiting, there⟩ := collected
  refine (assignManagement_eq_ok configured).mpr
    ⟨range, settled.read, pool, made, state, collect, [], ?_, ?_⟩
  · rw [waiting]
    exact sound.take_zero
  · rw [waiting, List.zip_nil_left, List.append_nil]
    exact (foldl_eq_self fun entry listed => giveAddress_eq_self (there entry listed)).symm

/-- An assignment of management addresses writes to management interfaces only, to each of
them once. -/
theorem exists_written_of_assignManagement (configured : config.management = some management)
    (run : (assignManagement config).outcome network = (.ok (), after)) :
    ∃ range, readSubnet management.range = .ok range ∧
      (∃ pool, managementPool management range = .ok pool) ∧
      ∃ entries : List (InterfaceId × Subnet × Address),
        (entries.map Prod.fst).Perm network.managementIds ∧
          (∀ entry ∈ entries, entry.2.1 = range) ∧
          after = written management.name network entries [] [] := by
  obtain ⟨range, read, pool, made, state, collect, blocks, take, rfl⟩ :=
    (assignManagement_eq_ok configured).mp run
  have whole := (hostPool_of_managementPool made).1.sound
  have sound := (managementState_eq_ok whole collect).1.sound
  have perm := perm_of_managementState whole collect
  have enough : state.waiting.length ≤ (blocks.map (·.network)).length := by
    rw [List.length_map]
    exact Nat.le_of_eq (sound.length_of_take take).symm
  have waiting : (state.waiting.zip (blocks.map (·.network))).map Prod.fst = state.waiting :=
    List.map_fst_zip enough
  refine ⟨range, read, ⟨pool, made⟩, _, ?_, ?_, foldl_giveAddress range _⟩
  · rw [← waiting, ← List.map_append] at perm
    rw [List.map_map]
    exact perm
  · intro entry listed
    obtain ⟨given, _, rfl⟩ := List.mem_map.mp listed
    rfl

/-- An assignment of management addresses settles them. -/
theorem settledManagement_of_assignManagement (configured : config.management = some management)
    (run : (assignManagement config).outcome network = (.ok (), after)) :
    ∃ range, SettledManagement management range after := by
  obtain ⟨range, read, made, entries, perm, same, rfl⟩ :=
    exists_written_of_assignManagement configured run
  refine ⟨range, read, made, fun id listed => ?_⟩
  have size : (written management.name network entries [] []).interfaces.size =
      network.interfaces.size :=
    size_foldl_modify Prod.fst (addressed management.name) network.interfaces entries
  have flag : ((written management.name network entries [] []).interface id).isManagement =
      (network.interface id).isManagement :=
    getD_foldl_modify_field Prod.fst (addressed management.name) network.interfaces
      Interface.isManagement (fun _ _ => rfl) entries default id
  have before : id ∈ network.managementIds := by
    rw [managementIds, List.mem_filter, interfaceIds, size, flag] at listed
    exact List.mem_filter.mpr listed
  obtain ⟨⟨_, range, address⟩, member, rfl⟩ := List.mem_map.mp (perm.mem_iff.mpr before)
  cases same _ member
  refine ⟨address, fun entry parameter => ?_⟩
  have once : (entries.map Prod.fst).Nodup :=
    perm.nodup_iff.mpr (List.nodup_range.filter _)
  rw [interface_written once member (List.mem_range.mp (List.mem_filter.mp before).1)]
  exact Table.getElem?_setAll_of_mem
    (addressParameters_once management.name range address) parameter

end Addressing

end TopoPlan
