import TopoPlan.Proofs.Network.ClassRecords
import TopoPlan.Proofs.Network.SearchedPorts
import TopoPlan.Proofs.Network.SettledHosts
import TopoPlan.Proofs.Network.Values

/-!
# Assigning addresses again

An assignment of addresses settles the segments and the loopbacks of every layer and the
management interfaces, and no later part of it undoes that.  What is settled is left as it
is, so a second assignment changes nothing: `assignAll_again` is the main statement.
-/

namespace TopoPlan

/-- What addresses leave alone of an interface. -/
def Interface.standing (interface : Interface) :=
  (interface.policies, interface.isManagement)

/-- What addresses leave alone of a segment. -/
def Segment.standing (segment : Segment) :=
  (segment.layer, segment.interfaces, segment.connections)

namespace Network

/-- Interfaces and segments are the same apart from what addresses change of them. -/
structure SameStanding (before after : Network) : Prop where
  interfaceCount : after.interfaces.size = before.interfaces.size
  connectionCount : after.connections.size = before.connections.size
  segmentCount : after.segments.size = before.segments.size
  interface : ∀ id, (after.interface id).standing = (before.interface id).standing
  segment : ∀ id, (after.segment id).standing = (before.segment id).standing

/-- The frame of stages that give addresses. -/
def standing : Frame where
  holds := SameStanding
  refl _ := ⟨rfl, rfl, rfl, fun _ => rfl, fun _ => rfl⟩
  trans first second :=
    ⟨second.interfaceCount.trans first.interfaceCount,
      second.connectionCount.trans first.connectionCount,
      second.segmentCount.trans first.segmentCount,
      fun id => (second.interface id).trans (first.interface id),
      fun id => (second.segment id).trans (first.segment id)⟩

/-- A change of a segment that keeps its standing keeps that of the network. -/
theorem sameStanding_updateSegment (network : Network) (id : SegmentId)
    {change : Segment → Segment} (keeps : ∀ segment, (change segment).standing = segment.standing) :
    SameStanding network (network.updateSegment id change) :=
  { standing.refl network with
    segmentCount := Array.size_modify
    segment := network.segment_updateSegment_field keeps id }

/-- Values are no part of the standing. -/
theorem standing_valueless : standing.Valueless where
  parameters network scope change := by
    cases scope with
    | interface id =>
      exact { standing.refl network with
        interfaceCount := Array.size_modify
        interface := network.interface_updateInterface_field (fun _ => by rfl) id }
    | connection id =>
      exact { standing.refl network with connectionCount := Array.size_modify }
    | segment id => exact network.sameStanding_updateSegment id fun _ => rfl
    | network | node | group | neighbor | member => exact { standing.refl network with }
  subnet network id _ _ := network.sameStanding_updateSegment id fun _ => rfl
  nodes network _ := { standing.refl network with }
  attachments network _ := { standing.refl network with }

section Standing

variable {before after : Network} (same : SameStanding before after)

include same

theorem SameStanding.policies (id : InterfaceId) :
    (after.interface id).policies = (before.interface id).policies :=
  congrArg Prod.fst (same.interface id)

theorem SameStanding.layer (id : SegmentId) :
    (after.segment id).layer = (before.segment id).layer :=
  congrArg (·.1) (same.segment id)

theorem SameStanding.ports (id : SegmentId) :
    (after.segment id).interfaces = (before.segment id).interfaces :=
  congrArg (·.2.1) (same.segment id)

theorem SameStanding.links (id : SegmentId) :
    (after.segment id).connections = (before.segment id).connections :=
  congrArg (·.2.2) (same.segment id)

/-- The segments of a layer are listed alike. -/
theorem SameStanding.segmentsIn (name : String) :
    after.segmentsIn name = before.segmentsIn name := by
  simp only [Network.segmentsIn, segmentIds, same.segmentCount, same.layer]

/-- Whether a network is divided depends on its standing alone. -/
theorem SameStanding.divided (divided : before.Divided) : after.Divided where
  bounded id inside := by
    rw [same.segmentCount] at inside
    obtain ⟨portsOnce, ports, linksOnce, links⟩ := divided.bounded id inside
    constructor
    case interfacesOnce => rwa [same.ports]
    case interfaces => rwa [same.ports, same.interfaceCount]
    case connectionsOnce => rwa [same.links]
    case connections => rwa [same.links, same.connectionCount]
  apart id other inside otherInside different layers := by
    rw [same.segmentCount] at inside otherInside
    rw [same.layer, same.layer] at layers
    have apart := divided.apart id other inside otherInside different layers
    rwa [Apart, same.ports, same.ports, same.links, same.links]

/-- Whether segments are anchored depends on their standing alone. -/
theorem SameStanding.anchored (anchored : before.Anchored) : after.Anchored where
  connected id inside := by
    rw [same.segmentCount] at inside
    rw [same.links]
    exact anchored.connected id inside
  ordinary id inside port listed := by
    rw [same.segmentCount] at inside
    rw [same.ports] at listed
    exact (congrArg Prod.snd (same.interface port)).trans (anchored.ordinary id inside port listed)

end Standing

/-- Segments of one layer are apart, have connections, and no management interfaces. -/
structure Laid (network : Network) : Prop where
  divided : network.Divided
  anchored : network.Anchored

/-- Whether a network is laid depends on its standing alone. -/
theorem Laid.congr {before after : Network} (laid : before.Laid)
    (same : SameStanding before after) : after.Laid :=
  ⟨same.divided laid.divided, same.anchored laid.anchored⟩

/-- A searched network is laid. -/
theorem laid_of_searched {config : Config} {network : Network} (valid : config.validate = .ok ())
    (searched : Searched config network) : network.Laid :=
  ⟨(partitioned_of_searched valid searched).divided, anchored_of_searched searched⟩

/-- The names of the parameters that an address in a layer has. -/
def addressKeys (name : String) : List String :=
  [addressKey name, subnetKey name, lengthKey name]

/-- What the segments of a layer and their addresses consist of is the same. -/
structure SameIn (name : String) (before after : Network) : Prop where
  standing : SameStanding before after
  segment : ∀ id ∈ before.segmentsIn name, after.segment id = before.segment id
  interface : ∀ id ∈ before.segmentsIn name, ∀ port ∈ (before.segment id).interfaces,
    ∀ key ∈ addressKeys name,
      (after.interface port).parameters.get? key = (before.interface port).parameters.get? key
  connection : ∀ id, (after.connection id).parameters.get? (subnetKey name) =
    (before.connection id).parameters.get? (subnetKey name)

theorem SameIn.refl (name : String) (network : Network) : SameIn name network network :=
  ⟨Network.standing.refl network, fun _ _ => rfl, fun _ _ _ _ _ _ => rfl, fun _ => rfl⟩

/-- What is kept in a layer twice is kept. -/
theorem SameIn.trans {name : String} {first second third : Network}
    (one : SameIn name first second) (two : SameIn name second third) :
    SameIn name first third := by
  refine ⟨Network.standing.trans one.standing two.standing, fun id listed => ?_,
    fun id listed port member key known => ?_, fun id =>
      (two.connection id).trans (one.connection id)⟩
  · have later := listed
    rw [← one.standing.segmentsIn] at later
    exact (two.segment id later).trans (one.segment id listed)
  · have later := listed
    rw [← one.standing.segmentsIn] at later
    have laterMember := member
    rw [← one.standing.ports] at laterMember
    exact (two.interface id later port laterMember key known).trans
      (one.interface id listed port member key known)

section Same

variable {config : Config} {layer : Layer} {before after : Network}
  (same : SameIn layer.name before after) {id : SegmentId}
  (listed : id ∈ before.segmentsIn layer.name)

include same listed

/-- An address of a layer is kept with the values of that layer. -/
theorem SameIn.hasAddress {port : InterfaceId} (member : port ∈ (before.segment id).interfaces)
    {subnet : Subnet} {address : Address} (has : before.HasAddress layer subnet port address) :
    after.HasAddress layer subnet port address := by
  have keeps := same.interface id listed port member
  have given : after.givenAddress? layer port = before.givenAddress? layer port :=
    keeps (addressKey layer.name) (by simp [addressKeys])
  refine ⟨given.trans has.text, ?_, ?_, ?_, has.inside⟩
  · rw [address?, given]
    exact has.read
  · exact (keeps (subnetKey layer.name) (by simp [addressKeys])).trans has.subnetText
  · exact (keeps (lengthKey layer.name) (by simp [addressKeys])).trans has.lengthText

/-- A settled segment stays settled with the values of its layer. -/
theorem SameIn.settledSegment {subnet : Subnet}
    (settled : before.SettledSegment config layer id subnet) :
    after.SettledSegment config layer id subnet := by
  have segment := same.segment id listed
  constructor
  case policy =>
    obtain ⟨policy, agree⟩ := settled.policy
    refine ⟨policy, fun port member name own => ?_⟩
    rw [segment] at member
    rw [same.standing.policies] at own
    exact agree port member name own
  case connected =>
    rw [segment]
    exact settled.connected
  case bound =>
    rw [segment]
    exact settled.bound
  case subnetText =>
    rw [segment]
    exact settled.subnetText
  case lengthText =>
    rw [segment]
    exact settled.lengthText
  case interfaces =>
    intro port member
    rw [segment] at member
    obtain ⟨address, has⟩ := settled.interfaces port member
    exact ⟨address, same.hasAddress listed member has⟩
  case connections =>
    intro connection member
    rw [segment] at member
    obtain ⟨text, given, parsed⟩ := settled.connections connection member
    exact ⟨text, (same.connection connection).trans given, parsed⟩

end Same

/-- A settled layer stays settled with its values. -/
theorem SettledLayer.congr {config : Config} {layer : Layer} {before after : Network}
    (settled : SettledLayer config layer before) (same : SameIn layer.name before after) :
    SettledLayer config layer after := by
  refine ⟨settled.pools, fun id listed inhabited => ?_⟩
  rw [same.standing.segmentsIn] at listed
  rw [same.standing.ports] at inhabited
  obtain ⟨subnet, segment⟩ := settled.segments id listed inhabited
  exact ⟨subnet, same.settledSegment listed segment⟩

end Network

namespace Addressing

open Network Stage

variable {config : Config} {layer : Layer} {network after : Network}

/-! ## Segments -/

/-- An assignment settles the segments of its layer. -/
theorem settledLayer_of_assignSegments (valid : config.validate = .ok ())
    (member : layer ∈ config.layers) (laid : network.Laid)
    (run : (assignSegments config layer).outcome network = (.ok (), after)) :
    SettledLayer config layer after := by
  have same := (assignSegments_within standing_valueless config layer).holds run
  obtain ⟨plans, final, assignment⟩ := assignment_of_outcome valid member run
  constructor
  case pools =>
    obtain ⟨_, complete, _⟩ := assignSegments_eq_ok run
    obtain ⟨pools, made, _⟩ := Outcome.bind_eq_ok.mp complete
    exact ⟨pools, made⟩
  case segments =>
    intro id listed inhabited
    rw [same.segmentsIn] at listed
    have inside := lt_of_mem_segmentsIn listed
    rw [same.ports] at inhabited
    obtain ⟨plan, planned, rfl⟩ := assignment.exists_plan listed inhabited
    obtain ⟨subnet, hosts, settles⟩ := assignment.exists_settles valid member planned
    have addressed := assignment.addressedSegment laid.divided valid member planned settles
    obtain ⟨request, _, _, describes⟩ := assignment.request planned
    refine ⟨subnet,
      { policy := ⟨request.policy, fun port onSegment name own => ?_⟩
        connected := ?_
        bound := addressed.bound
        subnetText := addressed.subnetText
        lengthText := addressed.lengthText
        interfaces := addressed.interfaces
        connections := addressed.connections }⟩
    · rw [same.ports] at onSegment
      rw [same.policies] at own
      have chosen := describes.policy port onSegment name own
      exact ⟨chosen, describes.serves name chosen⟩
    · rw [same.links]
      exact laid.anchored.connected plan.segment inside

/-- The names of parameters of addresses tell the layer: their endings differ in the last
character. -/
theorem addressKeys_disjoint {name other : String} (different : name ≠ other) :
    (addressKeys name).Disjoint (addressKeys other) := by
  intro key own foreign
  change key ∈ ["_addr", "_net", "_plen"].map (name ++ ·) at own
  change key ∈ ["_addr", "_net", "_plen"].map (other ++ ·) at foreign
  obtain ⟨left, leftEnding, rfl⟩ := List.mem_map.mp own
  obtain ⟨right, rightEnding, same⟩ := List.mem_map.mp foreign
  have characters := congrArg String.toList same
  rw [String.toList_append, String.toList_append] at characters
  have last := congrArg List.getLast? characters
  have endings : left = right := by
    simp only [List.mem_cons, List.not_mem_nil, or_false] at leftEnding rightEnding
    rcases leftEnding with rfl | rfl | rfl <;> rcases rightEnding with rfl | rfl | rfl <;>
      simp at last ⊢
  subst endings
  exact different (String.ext (List.append_cancel_right characters)).symm

/-- Writing to other layers leaves the addresses that interfaces have in a layer. -/
theorem parameter_written {name other key : String} (different : name ≠ other)
    (known : key ∈ addressKeys name) (addresses : List (InterfaceId × Subnet × Address))
    (links : List (ConnectionId × Subnet)) (bounds : List (SegmentId × Subnet))
    (port : InterfaceId) :
    ((written other network addresses links bounds).interface port).parameters.get? key =
      (network.interface port).parameters.get? key := by
  refine getD_foldl_modify_field Prod.fst (addressed other) network.interfaces
    (·.parameters.get? key) (fun entry interface => ?_) addresses default port
  exact Parameters.get?_setAll_of_not_mem _ fun foreign =>
    addressKeys_disjoint different known foreign

/-- The subnets of different layers are written under different names. -/
theorem subnetKey_ne {name other : String} (different : name ≠ other) :
    subnetKey name ≠ subnetKey other := by
  intro same
  refine addressKeys_disjoint different (a := subnetKey name) ?_ ?_
  · simp [addressKeys]
  · simp [addressKeys, same]

/-- Writing to other layers leaves a layer alone. -/
theorem sameIn_written {name other : String} (different : name ≠ other)
    {addresses : List (InterfaceId × Subnet × Address)} {links : List (ConnectionId × Subnet)}
    {bounds : List (SegmentId × Subnet)}
    (elsewhere : ∀ entry ∈ bounds, entry.1 ∉ network.segmentsIn name)
    (same : SameStanding network (written other network addresses links bounds)) :
    SameIn name network (written other network addresses links bounds) := by
  refine ⟨same, fun id listed => ?_, fun _ _ port _ key known =>
    parameter_written different known addresses links bounds port, fun id => ?_⟩
  · refine getD_foldl_modify_of_not_mem Prod.fst (bound other) network.segments default ?_
    intro bounded
    obtain ⟨entry, member, rfl⟩ := List.mem_map.mp bounded
    exact elsewhere entry member listed
  · refine getD_foldl_modify_field Prod.fst (linked other) network.connections
      (·.parameters.get? (subnetKey name)) (fun entry connection => ?_) links default id
    exact Parameters.get?_setIfAbsent_of_ne _ _ (subnetKey_ne different).symm

/-- An assignment of one layer leaves the segments of the others alone. -/
theorem sameIn_of_assignSegments {other : Layer} (valid : config.validate = .ok ())
    (member : other ∈ config.layers) (different : layer.name ≠ other.name)
    (run : (assignSegments config other).outcome network = (.ok (), after)) :
    SameIn layer.name network after := by
  have same := (assignSegments_within standing_valueless config other).holds run
  obtain ⟨_, complete, rfl, _⟩ := assignSegments_eq_ok run
  refine sameIn_written different (fun entry bound listed => ?_) same
  exact ne_of_mem_segmentsIn different listed
    (mem_segmentsIn_of_bounds valid member complete bound) rfl

/-- The addressing of segments gives nodes no parameters but addresses. -/
theorem nodesAddressed_of_assignSegments
    (run : (assignSegments config layer).outcome network = (.ok (), after)) :
    nodesAddressed.holds network after := by
  obtain ⟨_, _, rfl, _⟩ := assignSegments_eq_ok run
  exact nodesAddressed_of_nodes rfl

/-! ## Layers -/

/-- Loopbacks leave segments alone. -/
theorem sameIn_of_assignLoopbacks {name : String} {policy : Policy}
    (run : (assignLoopbacks layer policy).outcome network = (.ok (), after)) :
    SameIn name network after := by
  obtain ⟨_, _, _, _, state, _, blocks, _, rfl⟩ := assignLoopbacks_eq_ok.mp run
  refine List.foldlRecOn (motive := SameIn name network) (state.2.zip blocks)
    (giveLoopback layer.name) (.refl name network) fun current same entry _ => same.trans ?_
  exact ⟨⟨rfl, rfl, rfl, fun _ => rfl, fun _ => rfl⟩, fun _ _ => rfl, fun _ _ _ _ _ _ => rfl,
    fun _ => rfl⟩

/-- What an assignment of a layer has settled. -/
structure SettledAll (config : Config) (layer : Layer) (network : Network) : Prop where
  segments : SettledLayer config layer network
  loopbacks : ∀ policy ∈ layer.loopbackPolicies, SettledLoopbacks layer policy network

/-- Everything settled in a layer stays settled with its values. -/
theorem SettledAll.congr (settled : SettledAll config layer network)
    (segments : SameIn layer.name network after) (nodes : nodesAddressed.holds network after) :
    SettledAll config layer after :=
  ⟨settled.segments.congr segments, fun policy listed => (settled.loopbacks policy listed).congr nodes⟩

/-- The loopbacks of a layer: its segments stay settled, and the loopbacks become so. -/
theorem settledAll_of_loopbacks (valid : config.validate = .ok ()) (member : layer ∈ config.layers)
    (settled : SettledLayer config layer network)
    (run : (layer.loopbackPolicies.forM (assignLoopbacks layer)).outcome network = (.ok (), after)) :
    SettledAll config layer after := by
  have once : layer.loopbackPolicies.Nodup :=
    (List.Nodup.of_map _ (Config.policyNames_nodup valid member)).filter _
  have all := outcome_forM_settles (SettledLayer config layer) (SettledLoopbacks layer) once
    (fun policy _ before next step settled => ⟨settled.congr (sameIn_of_assignLoopbacks step),
      settledLoopbacks_of_assignLoopbacks step⟩)
    (fun policy _ other _ _ before next step _ settled =>
      settled.congr (nodesAddressed_of_assignLoopbacks step)) run settled
  exact ⟨all.1, all.2⟩

/-- The standing of segments is kept when a layer is assigned. -/
theorem sameStanding_of_assignLayer
    (run : (assignLayer config layer).outcome network = (.ok (), after)) :
    SameStanding network after := by
  have within : Within standing (assignLayer config layer) :=
    within_bind (assignSegments_within standing_valueless config layer) fun _ =>
      within_forM fun policy _ => assignLoopbacks_within standing_valueless layer policy
  exact within.holds run

/-- An assignment of a layer settles it. -/
theorem settledAll_of_assignLayer (valid : config.validate = .ok ())
    (member : layer ∈ config.layers) (laid : network.Laid)
    (run : (assignLayer config layer).outcome network = (.ok (), after)) :
    SettledAll config layer after := by
  obtain ⟨_, middle, segments, loopbacks⟩ := outcome_bind_eq_ok.mp run
  exact settledAll_of_loopbacks valid member
    (settledLayer_of_assignSegments valid member laid segments) loopbacks

/-- An assignment of a layer does not undo what those of other layers settled. -/
theorem SettledAll.assignLayer {other : Layer} (settled : SettledAll config layer network)
    (valid : config.validate = .ok ()) (member : other ∈ config.layers)
    (different : layer.name ≠ other.name)
    (run : (assignLayer config other).outcome network = (.ok (), after)) :
    SettledAll config layer after := by
  obtain ⟨_, middle, segments, loopbacks⟩ := outcome_bind_eq_ok.mp run
  have start : SettledAll config layer middle :=
    settled.congr (sameIn_of_assignSegments valid member different segments)
      (nodesAddressed_of_assignSegments segments)
  refine outcome_forM_induction (SettledAll config layer)
    (fun policy _ before next step settled => ?_) loopbacks start
  exact settled.congr (sameIn_of_assignLoopbacks step) (nodesAddressed_of_assignLoopbacks step)

/-- An assignment of a layer that is settled changes nothing. -/
theorem assignLayer_of_settled (settled : SettledAll config layer network) :
    (assignLayer config layer).outcome network = (.ok (), network) :=
  outcome_bind_eq_ok.mpr ⟨(), network, assignSegments_of_settled settled.segments,
    outcome_forM_of_idle fun policy listed =>
      assignLoopbacks_of_settled (settled.loopbacks policy listed)⟩

/-! ## All layers and management -/

/-- An assignment of management addresses leaves all other interfaces alone. -/
theorem interface_of_assignManagement {port : InterfaceId}
    (ordinary : (network.interface port).isManagement = false)
    (run : (assignManagement config).outcome network = (.ok (), after)) :
    after.interface port = network.interface port := by
  cases configured : config.management with
  | none =>
    rw [assignManagement, configured] at run
    cases run
    rfl
  | some management =>
    obtain ⟨_, _, _, entries, perm, _, rfl⟩ := exists_written_of_assignManagement configured run
    refine getD_foldl_modify_of_not_mem Prod.fst (addressed management.name) network.interfaces
      default fun written => ?_
    cases ordinary.symm.trans (List.mem_filter.mp (perm.mem_iff.mp written)).2

/-- An assignment of management addresses leaves segments alone: they have no management
interfaces. -/
theorem sameIn_of_assignManagement {name : String} (laid : network.Laid)
    (run : (assignManagement config).outcome network = (.ok (), after)) :
    SameIn name network after := by
  have same := (assignManagement_within standing_valueless config).holds run
  have others : after.segments = network.segments ∧ after.connections = network.connections := by
    cases configured : config.management with
    | none =>
      rw [assignManagement, configured] at run
      cases run
      exact ⟨rfl, rfl⟩
    | some management =>
      obtain ⟨_, _, _, entries, _, _, rfl⟩ := exists_written_of_assignManagement configured run
      exact ⟨rfl, rfl⟩
  refine ⟨same, fun id _ => ?_, fun id listed port onSegment key _ => ?_, fun id => ?_⟩
  · rw [Network.segment, Network.segment, others.1]
  · have inside := List.mem_range.mp (List.mem_filter.mp listed).1
    rw [interface_of_assignManagement (laid.anchored.ordinary id inside port onSegment) run]
  · rw [connection, connection, others.2]

/-- The management addresses give nodes no parameters but addresses. -/
theorem nodesAddressed_of_assignManagement
    (run : (assignManagement config).outcome network = (.ok (), after)) :
    nodesAddressed.holds network after := by
  cases configured : config.management with
  | none =>
    rw [assignManagement, configured] at run
    cases run
    exact nodesAddressed.refl network
  | some management =>
    obtain ⟨_, _, _, _, _, _, rfl⟩ := exists_written_of_assignManagement configured run
    exact nodesAddressed_of_nodes rfl

/-- A second assignment of addresses succeeds and changes nothing. -/
theorem assignAll_again (valid : config.validate = .ok ()) (searched : Searched config network)
    (run : (assignAll config).outcome network = (.ok (), after)) :
    (assignAll config).outcome after = (.ok (), after) := by
  obtain ⟨_, middle, layers, management⟩ := outcome_bind_eq_ok.mp run
  have names := (Config.checkLayers_names (Config.checkLayers_of_validate valid)).1
  obtain ⟨laid, settled⟩ := outcome_forM_settles Laid (SettledAll config)
    (List.Nodup.of_map _ names)
    (fun layer member before next step laid => ⟨laid.congr (sameStanding_of_assignLayer step),
      settledAll_of_assignLayer valid member laid step⟩)
    (fun layer member other otherMember different before next step _ settled => by
      refine settled.assignLayer valid member (fun same => different ?_) step
      exact Config.layer_eq_of_name valid otherMember member same)
    layers (laid_of_searched valid searched)
  have segments (name : String) : SameIn name middle after := sameIn_of_assignManagement laid management
  have nodes := nodesAddressed_of_assignManagement management
  refine outcome_bind_eq_ok.mpr ⟨⟨⟩, after, outcome_forM_of_idle fun layer member => ?_, ?_⟩
  · exact assignLayer_of_settled ((settled layer member).congr (segments layer.name) nodes)
  · cases configured : config.management with
    | none =>
      rw [assignManagement, configured]
      rfl
    | some layer =>
      obtain ⟨range, settled⟩ := settledManagement_of_assignManagement configured management
      exact assignManagement_of_settled configured settled

end Addressing

namespace Branch

open Network

/-- Two linked hosts, one of them with an address and a length behind it. -/
def labelled : Topology where
  nodes := topology.nodes
  edges := [{ source := "a", target := "b", sourceLabels := ["ip_addr=10.0.7.5/29"] }]

/-- The network of the labelled topology. -/
def labelledBuilt : Network := (ofTopology config labelled).toOption.getD {}

/-- The network after resolution. -/
def labelledResolved : Network := ((resolve config {}).outcome labelledBuilt).2

/-- The network with its segment. -/
def labelledSearched : Network := ((Segments.addAll config).outcome labelledResolved).2

/-- The network with its addresses. -/
def labelledAddressed : Network := ((Addressing.assignAll config).outcome labelledSearched).2

/-- The labelled network is searched without error. -/
theorem labelledSearched_of_labelled : Searched config labelledSearched :=
  ⟨labelled, {}, labelledBuilt, labelledResolved, Outcome.eq_ok_of_isOk {} (by decide +kernel),
    Stage.outcome_eq_ok (by decide +kernel), Stage.outcome_eq_ok (by decide +kernel)⟩

/-- The first assignment writes the address without the length, in a subnet as long as the
policy says; the second one reads that and leaves it. -/
theorem assignAll_again_of_labelled :
    config.validate = .ok () ∧ Searched config labelledSearched ∧
      (labelledSearched.interface 0).parameters.get? "ip_addr" = some "10.0.7.5/29" ∧
      (labelledAddressed.interface 0).parameters.get? "ip_addr" = some "10.0.7.5" ∧
      (labelledAddressed.segment 0).subnet.map Subnet.text = some "10.0.7.0/24" ∧
      (Addressing.assignAll config).outcome labelledSearched = (.ok (), labelledAddressed) ∧
      (Addressing.assignAll config).outcome labelledAddressed = (.ok (), labelledAddressed) := by
  have addressed : (Addressing.assignAll config).outcome labelledSearched =
      (.ok (), labelledAddressed) :=
    Stage.outcome_eq_ok (by decide +kernel)
  exact ⟨config_valid, labelledSearched_of_labelled, by decide +kernel, by decide +kernel,
    by decide +kernel, addressed,
    Addressing.assignAll_again config_valid labelledSearched_of_labelled addressed⟩

end Branch

end TopoPlan
