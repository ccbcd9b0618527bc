import TopoPlan.Proofs.Network.SegmentAddresses

/-!
# Settled segments

A segment is settled when it has all that an assignment writes to it: its subnet, the
addresses of its interfaces and the subnets of its connections.  A settled segment gives
explicit data only, so its plan asks for nothing and writes what is there.  The main
statement is `assignSegments_of_settled`: an assignment of a settled layer succeeds and
changes nothing.
-/

namespace TopoPlan

namespace Network

/-- A segment has what an assignment writes to it. -/
structure SettledSegment (config : Config) (network : Network) (layer : Layer) (id : SegmentId)
    (subnet : Subnet) : Prop where
  policy : ∃ policy, ∀ port ∈ (network.segment id).interfaces, ∀ name,
    (network.interface port).policies[layer.name]? = some name →
      policy = some name ∧ SegmentPlan.ServesSegments layer config name
  connected : (network.segment id).connections ≠ []
  bound : (network.segment id).subnet = some subnet
  subnetText : (network.segment id).parameters.get? (subnetKey layer.name) = some subnet.text
  lengthText : (network.segment id).parameters.get? (lengthKey layer.name) =
    some (Numeral.text subnet.length)
  interfaces : ∀ port ∈ (network.segment id).interfaces,
    ∃ address, network.HasAddress layer subnet port address
  connections : ∀ connection ∈ (network.segment id).connections,
    ∃ text, network.givenSubnet? layer connection = some text ∧ Subnet.parse text = .ok subnet

/-- All segments of a layer with interfaces are settled, and the layer has pools. -/
structure SettledLayer (config : Config) (layer : Layer) (network : Network) : Prop where
  pools : ∃ pools, Addressing.poolsOf layer = .ok pools
  segments : ∀ id ∈ network.segmentsIn layer.name, (network.segment id).interfaces ≠ [] →
    ∃ subnet, network.SettledSegment config layer id subnet

end Network

namespace SegmentPlan

open Network

variable {network : Network} {config : Config} {layer : Layer}

/-- A text that is a subnet is read. -/
theorem readSubnet_of_parse {text : String} {subnet : Subnet}
    (parsed : Subnet.parse text = .ok subnet) : readSubnet text = .ok subnet := by
  unfold readSubnet
  split
  case h_1 found =>
    cases found.symm.trans parsed
    rfl
  case h_2 failed => cases failed.symm.trans parsed

/-- A text that is a host address is read. -/
theorem readAddress_of_parse {text : String} {address : Address}
    (parsed : Address.parseHost? text = some address) : readAddress text = .ok address := by
  unfold readAddress
  split
  case h_1 found =>
    cases found.symm.trans parsed
    rfl
  case h_2 failed => cases failed.symm.trans parsed

/-- The policy of an interface is known when it serves segments of the layer, or when there
is an address instead. -/
theorem policyOf_of_serves {port : InterfaceId}
    (given : (network.givenAddress? layer port).isSome = true)
    (serves : ∀ name, (network.interface port).policies[layer.name]? = some name →
      ServesSegments layer config name) :
    policyOf network config layer port =
      .ok (network.interface port).policies[layer.name]? := by
  unfold policyOf
  dsimp only
  cases own : (network.interface port).policies[layer.name]? with
  | none =>
    dsimp only
    rw [if_pos]
    rw [Parameters.has_eq_isSome]
    exact given
  | some name =>
    obtain ⟨found, definition, look, same, kind⟩ := serves name own
    simp [look, same, kind]

/-- An address has no length written behind it. -/
theorem givenLength_text (address : Address) : givenLength address.text = .ok none := by
  rw [givenLength, Text.cutOnce_eq_none address.slash_not_mem_text]

section Settled

variable {id : SegmentId} {subnet : Subnet}
  (settled : network.SettledSegment config layer id subnet)

include settled

/-- All policies of a settled segment agree. -/
theorem exists_segmentPolicy :
    ∃ policy, segmentPolicy network config layer (network.segment id) = .ok policy := by
  obtain ⟨policy, agree⟩ := settled.policy
  let motive (_ : List InterfaceId) (chosen : Option String) : Prop :=
    chosen = none ∨ chosen = policy
  suffices found : ∃ chosen,
      segmentPolicy network config layer (network.segment id) = .ok chosen ∧
        motive (network.segment id).interfaces chosen by
    obtain ⟨chosen, run, _⟩ := found
    exact ⟨chosen, run⟩
  unfold segmentPolicy
  refine Outcome.exists_foldlM_induction (motive := motive) (.inl rfl) ?_
  intro done port chosen start holds
  have onSegment := Outcome.mem_of_concat_prefix start
  obtain ⟨address, text, _⟩ := settled.interfaces port onSegment
  have known := policyOf_of_serves (by rw [text]; rfl) fun name own =>
    (agree port onSegment name own).2
  cases own : (network.interface port).policies[layer.name]? with
  | none =>
    rw [own] at known
    exact ⟨chosen, Outcome.bind_eq_ok.mpr ⟨none, known, rfl⟩, holds⟩
  | some name =>
    rw [own] at known
    obtain ⟨rfl, _⟩ := agree port onSegment name own
    refine ⟨some name, Outcome.bind_eq_ok.mpr ⟨some name, known, ?_⟩, .inr rfl⟩
    rcases holds with rfl | rfl
    · rfl
    · exact if_pos (beq_self_eq_true name)

/-- All connections of a settled segment give its subnet. -/
theorem exists_connectionSubnet :
    ∃ given, connectionSubnet network layer (network.segment id) = .ok given := by
  let motive (_ : List ConnectionId) (bound : Option Subnet) : Prop :=
    bound = none ∨ bound = some subnet
  suffices found : ∃ given, connectionSubnet network layer (network.segment id) = .ok given ∧
      motive (network.segment id).connections given by
    obtain ⟨given, run, _⟩ := found
    exact ⟨given, run⟩
  unfold connectionSubnet
  refine Outcome.exists_foldlM_induction (motive := motive) (.inl rfl) ?_
  intro done connection bound start holds
  obtain ⟨text, given, parsed⟩ :=
    settled.connections connection (Outcome.mem_of_concat_prefix start)
  unfold givenSubnet? at given
  rw [given]
  dsimp only
  refine ⟨some subnet, Outcome.bind_eq_ok.mpr ⟨subnet, readSubnet_of_parse parsed, ?_⟩, .inr rfl⟩
  rcases holds with rfl | rfl
  · rfl
  · exact if_pos rfl

/-- All interfaces of a settled segment have an address that can be read. -/
theorem exists_readExplicit :
    ∃ found, readExplicit network layer (network.segment id) = .ok found := by
  suffices found : ∃ found : Explicit,
      readExplicit network layer (network.segment id) = .ok found ∧ True by
    obtain ⟨found, run, _⟩ := found
    exact ⟨found, run⟩
  unfold readExplicit
  refine Outcome.exists_foldlM_induction (motive := fun _ _ => True) trivial ?_
  intro done port found start _
  obtain ⟨address, has⟩ := settled.interfaces port (Outcome.mem_of_concat_prefix start)
  have given := has.text
  unfold givenAddress? at given
  rw [given]
  dsimp only
  have read := readAddress_of_parse address.parseHost?_text
  have bare := givenLength_text address
  exact ⟨_, Outcome.bind_eq_ok.mpr ⟨address, read, Outcome.bind_eq_ok.mpr ⟨none, bare, rfl⟩⟩,
    trivial⟩

/-- The plan of a settled segment has its subnet, and no interface waits. -/
theorem exists_ofSegment :
    ∃ plan, ofSegment network config layer id = .ok plan ∧ plan.subnet = some subnet ∧
      plan.waiting = [] ∧
      ∀ entry ∈ plan.reserved, network.HasAddress layer subnet entry.1 entry.2 := by
  obtain ⟨policy, choice⟩ := exists_segmentPolicy settled
  obtain ⟨given, connections⟩ := exists_connectionSubnet settled
  obtain ⟨explicit, read⟩ := exists_readExplicit settled
  obtain ⟨waiting, reserved, addresses⟩ := readExplicit_eq_ok read
  have has : ∀ entry ∈ explicit.reserved, network.HasAddress layer subnet entry.1 entry.2 := by
    intro entry listed
    have onSegment := List.mem_map_of_mem (f := Prod.fst) listed
    rw [reserved] at onSegment
    obtain ⟨address, found⟩ := settled.interfaces _ (List.mem_filter.mp onSegment).1
    obtain ⟨text, same, parsed⟩ := addresses entry listed
    cases same.symm.trans found.text
    cases parsed.symm.trans address.parseHost?_text
    exact found
  have bound : given = some subnet := by
    obtain ⟨connection, onSegment⟩ := List.exists_mem_of_ne_nil _ settled.connected
    obtain ⟨text, known, parsed⟩ := settled.connections connection onSegment
    obtain ⟨found, same, also⟩ :=
      (connectionSubnet_eq_ok connections).1 connection onSegment text known
    cases parsed.symm.trans also
    exact same
  have determined : explicitSubnet network config (network.segment id) policy explicit given =
      .ok (some subnet) := by
    rw [bound]
    have inside : explicit.reserved.forM (checkInside network (network.segment id) subnet) =
        .ok () := by
      refine Outcome.forM_of_forall fun entry listed => ?_
      rw [checkInside, if_pos (has entry listed).inside]
    exact Outcome.bind_eq_ok.mpr ⟨(), inside, rfl⟩
  have bounded : checkBounded network layer policy explicit (some subnet) = .ok () := by
    simp [checkBounded]
  refine ⟨{ segment := id, policy, subnet := some subnet, waiting := explicit.waiting,
            reserved := explicit.reserved }, ?_, rfl, ?_, has⟩
  · exact Outcome.bind_eq_ok.mpr ⟨policy, choice, Outcome.bind_eq_ok.mpr ⟨given, connections,
      Outcome.bind_eq_ok.mpr ⟨explicit, read, Outcome.bind_eq_ok.mpr ⟨some subnet, determined,
        Outcome.bind_eq_ok.mpr ⟨(), bounded, rfl⟩⟩⟩⟩⟩
  · refine waiting.trans (List.filter_eq_nil_iff.mpr fun port onSegment => ?_)
    obtain ⟨address, found⟩ := settled.interfaces port onSegment
    simp [found.text]

end Settled

end SegmentPlan

namespace Addressing

open Network

variable {network : Network} {config : Config} {layer : Layer}

/-! ## Pools -/

/-- All pools are sound. -/
def SoundPools (pools : Table Pool) : Prop :=
  ∀ (name : String) pool, pools[name]? = some pool → pool.Sound

/-- The pools made for a layer are sound. -/
theorem soundPools_of_poolsOf {pools : Table Pool} (run : poolsOf layer = .ok pools) :
    SoundPools pools := by
  let motive (_ : List Policy) (current : Table Pool) : Prop := SoundPools current
  refine Outcome.foldlM_induction (motive := motive) run (fun name pool found => ?_) ?_
  · rw [Std.ExtTreeMap.getElem?_empty] at found
    cases found
  · intro done policy current next _ holds step name pool found
    obtain ⟨range, _, step⟩ := Outcome.bind_eq_ok.mp step
    obtain ⟨fresh, made, step⟩ := Outcome.bind_eq_ok.mp step
    cases step
    rw [Table.getElem?_insert] at found
    split at found
    · cases found
      exact Pool.sound_of_ofRange made
    · exact holds name pool found

/-- Sound pools can reserve any subnets. -/
theorem SoundPools.exists_reserveExplicit {pools : Table Pool} (sound : SoundPools pools)
    (plans : List SegmentPlan) : ∃ after, reserveExplicit plans pools = .ok after := by
  let motive (_ : List Subnet) (current : Table Pool) : Prop := SoundPools current
  suffices found : ∃ after, reserveExplicit plans pools = .ok after ∧ SoundPools after by
    obtain ⟨after, run, _⟩ := found
    exact ⟨after, run⟩
  refine Outcome.exists_foldlM_induction (motive := motive) sound ?_
  intro done subnet current _ sound
  refine Table.exists_updateAll (fun pool sound => ?_) sound
  obtain ⟨after, touched, run, binds, _⟩ := sound.reserve subnet
  exact ⟨after, run, binds.sound⟩

/-- Nothing is handed out to plans that have a subnet. -/
theorem foldlM_handOut_of_chosen (layer : Layer) {plans : List SegmentPlan}
    (chosen : ∀ plan ∈ plans, plan.subnet.isSome = true) (policies : List Policy)
    (pools : Table Pool) :
    policies.foldlM (handOut layer) (pools, plans) = .ok (pools, plans) := by
  induction policies with
  | nil => rfl
  | cons policy rest inductionHypothesis =>
    have nobody : plans.filter (waitsFor policy.name) = [] := by
      refine List.filter_eq_nil_iff.mpr fun plan listed => ?_
      obtain ⟨subnet, some⟩ := Option.isSome_iff_exists.mp (chosen plan listed)
      simp [waitsFor, some]
    have idle : handOut layer (pools, plans) policy = .ok (pools, plans) := by
      simp only [handOut, nobody, List.length_nil, if_true]
      rfl
    exact List.foldlM_cons.trans (Outcome.bind_eq_ok.mpr ⟨_, idle, inductionHypothesis⟩)

/-! ## Writing -/

/-- The parameters of an address are those of an interface that has it. -/
theorem addressParameters_of_hasAddress {subnet : Subnet} {port : InterfaceId} {address : Address}
    (has : network.HasAddress layer subnet port address) :
    ∀ entry ∈ addressParameters layer.name subnet address,
      (network.interface port).parameters.get? entry.1 = some entry.2 := by
  refine List.forall_mem_cons.mpr ⟨has.text, List.forall_mem_cons.mpr ⟨has.subnetText, ?_⟩⟩
  exact List.forall_mem_singleton.mpr has.lengthText

/-- Giving an interface parameters that it has changes nothing. -/
theorem giveAddress_eq_self {name : String} {subnet : Subnet} {entry : InterfaceId × Address}
    (there : ∀ parameter ∈ addressParameters name subnet entry.2,
      (network.interface entry.1).parameters.get? parameter.1 = some parameter.2) :
    giveAddress name subnet network entry = network := by
  refine network.updateInterface_eq_self ?_
  rw [Parameters.setAll_eq_self there]

/-- A fold whose steps change nothing changes nothing. -/
theorem foldl_eq_self {State Entry : Type} {step : State → Entry → State} {state : State}
    {entries : List Entry} (each : ∀ entry ∈ entries, step state entry = state) :
    entries.foldl step state = state := by
  induction entries with
  | nil => rfl
  | cons entry rest inductionHypothesis =>
    obtain ⟨first, others⟩ := List.forall_mem_cons.mp each
    rw [List.foldl_cons, first]
    exact inductionHypothesis others

/-- A connection that has a subnet is not given another. -/
theorem giveConnectionSubnet_eq_self {subnet : Subnet} {connection : ConnectionId}
    (taken : (network.givenSubnet? layer connection).isSome = true) :
    giveConnectionSubnet layer.name subnet network connection = network := by
  refine network.updateConnection_eq_self ?_
  rw [Parameters.setIfAbsent_eq_self _ taken]

/-- A settled segment is given what it has. -/
theorem giveSegmentSubnet_eq_self {id : SegmentId} {subnet : Subnet}
    (settled : network.SettledSegment config layer id subnet) :
    giveSegmentSubnet layer.name subnet network id = network := by
  have there : ∀ entry ∈ subnetParameters layer.name subnet,
      (network.segment id).parameters.get? entry.1 = some entry.2 :=
    List.forall_mem_cons.mpr ⟨settled.subnetText, List.forall_mem_singleton.mpr settled.lengthText⟩
  refine network.updateSegment_eq_self ?_
  rw [Parameters.setAll_eq_self there, ← settled.bound]

/-- Assigning a plan of a settled segment changes nothing. -/
theorem assignPlan_of_settled {plan : SegmentPlan} {subnet : Subnet}
    (settled : network.SettledSegment config layer plan.segment subnet)
    (chosen : plan.subnet = some subnet) (waiting : plan.waiting = [])
    (reserved : ∀ entry ∈ plan.reserved, network.HasAddress layer subnet entry.1 entry.2) :
    (assignPlan layer plan).outcome network = (.ok (), network) := by
  have found : subnet.hosts? plan.waiting.length (plan.reserved.map (·.2)) = some [] := by
    rw [waiting]
    rfl
  have addresses : plan.reserved.foldl (giveAddress layer.name subnet) network = network :=
    foldl_eq_self fun entry listed =>
      giveAddress_eq_self (addressParameters_of_hasAddress (reserved entry listed))
  have connections : (network.segment plan.segment).connections.foldl
      (giveConnectionSubnet layer.name subnet) network = network := by
    refine foldl_eq_self fun connection listed => giveConnectionSubnet_eq_self ?_
    obtain ⟨text, given, _⟩ := settled.connections connection listed
    rw [given]
    rfl
  have same : writePlan layer.name network plan subnet [] = network := by
    unfold writePlan
    dsimp only
    rw [List.zip_nil_right, List.nil_append, addresses, connections]
    exact giveSegmentSubnet_eq_self settled
  unfold assignPlan
  rw [chosen]
  refine Stage.outcome_bind_eq_ok.mpr ⟨[], network, Stage.outcome_require_eq_ok.mpr ⟨found, rfl⟩, ?_⟩
  exact Stage.outcome_modify_eq_ok.mpr same.symm

/-- Assigning the addresses of the segments of a settled layer changes nothing. -/
theorem assignSegments_of_settled (settled : SettledLayer config layer network) :
    (assignSegments config layer).outcome network = (.ok (), network) := by
  obtain ⟨pools, ranges⟩ := settled.pools
  have each : ∀ id ∈ (network.segmentsIn layer.name).filter fun id =>
      !(network.segment id).interfaces.isEmpty,
      ∃ plan, SegmentPlan.ofSegment network config layer id = .ok plan := by
    intro id listed
    obtain ⟨onLayer, inhabited⟩ := List.mem_filter.mp listed
    obtain ⟨subnet, settledSegment⟩ := settled.segments id onLayer (by simpa using inhabited)
    obtain ⟨plan, run, _⟩ := SegmentPlan.exists_ofSegment settledSegment
    exact ⟨plan, run⟩
  obtain ⟨plans, planned⟩ := Outcome.exists_mapM each
  have fits : ∀ plan ∈ plans, ∃ subnet, network.SettledSegment config layer plan.segment subnet ∧
      plan.subnet = some subnet ∧ plan.waiting = [] ∧
        ∀ entry ∈ plan.reserved, network.HasAddress layer subnet entry.1 entry.2 := by
    intro plan listed
    obtain ⟨id, segmentListed, run⟩ := (Outcome.mem_mapM_iff planned).mp listed
    obtain ⟨onLayer, inhabited⟩ := List.mem_filter.mp segmentListed
    obtain ⟨subnet, settledSegment⟩ := settled.segments id onLayer (by simpa using inhabited)
    obtain ⟨same, again, chosen, waiting, reserved⟩ := SegmentPlan.exists_ofSegment settledSegment
    cases run.symm.trans again
    have segment := (SegmentPlan.describes_of_ofSegment run).segment
    rw [← segment] at settledSegment
    exact ⟨subnet, settledSegment, chosen, waiting, reserved⟩
  obtain ⟨guarded, reserved⟩ := (soundPools_of_poolsOf ranges).exists_reserveExplicit plans
  have handed := foldlM_handOut_of_chosen layer (fun plan listed => by
    obtain ⟨subnet, _, chosen, _⟩ := fits plan listed
    rw [chosen]
    rfl) layer.segmentPolicies guarded
  have completed : completePlans network config layer = .ok plans :=
    Outcome.bind_eq_ok.mpr ⟨pools, ranges, Outcome.bind_eq_ok.mpr ⟨plans, planned,
      Outcome.bind_eq_ok.mpr ⟨guarded, reserved, Outcome.bind_eq_ok.mpr ⟨_, handed, rfl⟩⟩⟩⟩
  rw [assignSegments, Stage.outcome_get_bind]
  refine Stage.outcome_bind_eq_ok.mpr
    ⟨plans, network, Stage.outcome_ofExcept_eq_ok.mpr ⟨completed, rfl⟩, ?_⟩
  refine Stage.outcome_forM_of_idle fun plan listed => ?_
  obtain ⟨subnet, settledSegment, chosen, waiting, reserved⟩ := fits plan listed
  exact assignPlan_of_settled settledSegment chosen waiting reserved

end Addressing

end TopoPlan
