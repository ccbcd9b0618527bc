import TopoPlan.Network.Addressing
import TopoPlan.Proofs.Network.Objects
import TopoPlan.Proofs.Network.Stages
import TopoPlan.Proofs.Text.Tables

/-!
# What an assignment writes

An assignment writes the addresses of interfaces, the subnets of connections and the
subnets of segments that the completed plans give, one after the other.  `written` is
the network with all of it, and `assignSegments_eq_ok` says that this is what a
successful assignment leaves.
-/

namespace TopoPlan

namespace Parameters

/-- Values that are all there already. -/
theorem setAll_eq_self {parameters : Parameters} {entries : List (String × String)}
    (there : ∀ entry ∈ entries, parameters.get? entry.1 = some entry.2) :
    parameters.setAll entries = parameters := by
  unfold setAll
  rw [Table.setAll_eq_self there]

/-- A parameter that has a value already. -/
theorem setIfAbsent_eq_self {parameters : Parameters} {key : String} (value : String)
    (taken : (parameters.get? key).isSome = true) :
    parameters.setIfAbsent key value = parameters := by
  unfold setIfAbsent
  rw [Table.insertIfNew_eq_self value (Std.ExtTreeMap.mem_iff_isSome_getElem?.mpr taken)]

/-- Parameters of other names stay when some get values. -/
theorem get?_setAll_of_not_mem (parameters : Parameters) {entries : List (String × String)}
    {key : String} (other : key ∉ entries.map Prod.fst) :
    (parameters.setAll entries).get? key = parameters.get? key :=
  Table.getElem?_setAll_of_not_mem other

/-- A parameter with a value of its own has it in the end. -/
theorem get?_set (parameters : Parameters) (key other value : String) :
    (parameters.set key value).get? other =
      if key = other then some value else parameters.get? other :=
  Table.getElem?_insert parameters.own key other value

/-- Parameters of other names stay when one gets a value. -/
theorem get?_setIfAbsent_of_ne (parameters : Parameters) {key other : String} (value : String)
    (different : key ≠ other) :
    (parameters.setIfAbsent key value).get? other = parameters.get? other := by
  unfold setIfAbsent get?
  rw [Std.ExtTreeMap.getElem?_insertIfNew]
  simp [different]

end Parameters

namespace SegmentPlan

/-- The host addresses of a plan with a subnet. -/
def hosts? (plan : SegmentPlan) (subnet : Subnet) : Option (List Address) :=
  subnet.hosts? plan.waiting.length (plan.reserved.map (·.2))

/-- The addresses of a plan: for each interface its subnet and its address. -/
def addresses (plan : SegmentPlan) : List (InterfaceId × Subnet × Address) :=
  plan.subnet.toList.flatMap fun subnet =>
    (plan.waiting.zip ((plan.hosts? subnet).getD []) ++ plan.reserved).map fun entry =>
      (entry.1, subnet, entry.2)

/-- The subnets that a plan gives to the connections of its segment. -/
def links (network : Network) (plan : SegmentPlan) : List (ConnectionId × Subnet) :=
  plan.subnet.toList.flatMap fun subnet =>
    (network.segment plan.segment).connections.map fun id => (id, subnet)

/-- The subnet that a plan gives to its segment. -/
def bounds (plan : SegmentPlan) : List (SegmentId × Subnet) :=
  plan.subnet.toList.map fun subnet => (plan.segment, subnet)

end SegmentPlan

namespace Addressing

variable (layer : String)

/-- An interface with an address in a subnet. -/
def addressed (entry : InterfaceId × Subnet × Address) (interface : Interface) : Interface :=
  { interface with
    parameters := interface.parameters.setAll (addressParameters layer entry.2.1 entry.2.2) }

/-- A connection with a subnet, unless it has one already. -/
def linked (entry : ConnectionId × Subnet) (connection : Connection) : Connection :=
  { connection with
    parameters := connection.parameters.setIfAbsent (subnetKey layer) entry.2.text }

/-- A segment with a subnet. -/
def bound (entry : SegmentId × Subnet) (segment : Segment) : Segment :=
  { segment with
    subnet := some entry.2
    parameters := segment.parameters.setAll (subnetParameters layer entry.2) }

/-- A network with addresses of interfaces and subnets of connections and segments. -/
def written (network : Network) (addresses : List (InterfaceId × Subnet × Address))
    (links : List (ConnectionId × Subnet)) (bounds : List (SegmentId × Subnet)) : Network :=
  { network with
    interfaces := addresses.foldl
      (fun current entry => current.modify entry.1 (addressed layer entry)) network.interfaces
    connections := links.foldl
      (fun current entry => current.modify entry.1 (linked layer entry)) network.connections
    segments := bounds.foldl
      (fun current entry => current.modify entry.1 (bound layer entry)) network.segments }

variable {layer} {network after : Network}

/-- Nothing written changes nothing. -/
theorem written_nil : written layer network [] [] [] = network :=
  rfl

/-- Writing in two parts. -/
theorem written_append (addresses moreAddresses : List (InterfaceId × Subnet × Address))
    (links moreLinks : List (ConnectionId × Subnet)) (bounds moreBounds : List (SegmentId × Subnet)) :
    written layer network (addresses ++ moreAddresses) (links ++ moreLinks) (bounds ++ moreBounds) =
      written layer (written layer network addresses links bounds) moreAddresses moreLinks
        moreBounds := by
  simp only [written, List.foldl_append]

/-- Addresses given one after the other are written at once. -/
theorem foldl_giveAddress (subnet : Subnet) (entries : List (InterfaceId × Address)) :
    entries.foldl (giveAddress layer subnet) network =
      written layer network (entries.map fun entry => (entry.1, subnet, entry.2)) [] [] := by
  induction entries generalizing network with
  | nil => rfl
  | cons entry rest inductionHypothesis =>
    rw [List.foldl_cons, inductionHypothesis]
    rfl

/-- Subnets given to connections one after the other are written at once. -/
theorem foldl_giveConnectionSubnet (subnet : Subnet) (ids : List ConnectionId) :
    ids.foldl (giveConnectionSubnet layer subnet) network =
      written layer network [] (ids.map fun id => (id, subnet)) [] := by
  induction ids generalizing network with
  | nil => rfl
  | cons id rest inductionHypothesis =>
    rw [List.foldl_cons, inductionHypothesis]
    rfl

/-- What writing one plan amounts to. -/
theorem writePlan_eq {plan : SegmentPlan} {subnet : Subnet} (chosen : plan.subnet = some subnet) :
    writePlan layer network plan subnet ((plan.hosts? subnet).getD []) =
      written layer network plan.addresses (plan.links network) plan.bounds := by
  unfold writePlan
  dsimp only
  rw [foldl_giveAddress, foldl_giveConnectionSubnet]
  simp only [SegmentPlan.addresses, SegmentPlan.links, SegmentPlan.bounds, chosen,
    Option.toList_some, List.flatMap_singleton, List.map_singleton]
  rfl

/-- Writing leaves all fields of segments but their subnet and parameters. -/
theorem segment_written_field {β : Type} (field : Segment → β)
    (keeps : ∀ entry segment, field (bound layer entry segment) = field segment)
    (addresses : List (InterfaceId × Subnet × Address)) (links : List (ConnectionId × Subnet))
    (bounds : List (SegmentId × Subnet)) (id : SegmentId) :
    field ((written layer network addresses links bounds).segment id) =
      field (network.segment id) :=
  getD_foldl_modify_field Prod.fst (bound layer) network.segments field keeps bounds default id

/-- What is written leaves the segments of a layer as they are. -/
theorem segmentsIn_written (addresses : List (InterfaceId × Subnet × Address))
    (links : List (ConnectionId × Subnet)) (bounds : List (SegmentId × Subnet)) (name : String) :
    (written layer network addresses links bounds).segmentsIn name = network.segmentsIn name := by
  have size : (written layer network addresses links bounds).segments.size =
      network.segments.size :=
    size_foldl_modify Prod.fst (bound layer) network.segments bounds
  have layers : ∀ id, ((written layer network addresses links bounds).segment id).layer =
      (network.segment id).layer :=
    segment_written_field (·.layer) (fun _ _ => rfl) addresses links bounds
  simp only [Network.segmentsIn, Network.segmentIds, size, layers]

/-- What is written leaves the links of the segments as they are. -/
theorem links_written (addresses : List (InterfaceId × Subnet × Address))
    (links : List (ConnectionId × Subnet)) (bounds : List (SegmentId × Subnet)) :
    SegmentPlan.links (written layer network addresses links bounds) =
      SegmentPlan.links network := by
  funext plan
  have same : ((written layer network addresses links bounds).segment plan.segment).connections =
      (network.segment plan.segment).connections :=
    segment_written_field (·.connections) (fun _ _ => rfl) addresses links bounds plan.segment
  rw [SegmentPlan.links, SegmentPlan.links, same]

/-- Assigning a plan writes what it gives, and finds all addresses. -/
theorem assignPlan_eq_ok {layer : Layer} {plan : SegmentPlan}
    (run : (assignPlan layer plan).outcome network = (.ok (), after)) :
    after = written layer.name network plan.addresses (plan.links network) plan.bounds ∧
      ∀ subnet, plan.subnet = some subnet → ∃ hosts, plan.hosts? subnet = some hosts := by
  unfold assignPlan at run
  split at run
  case h_1 none =>
    cases run
    refine ⟨?_, fun subnet some => nomatch none.symm.trans some⟩
    simp [SegmentPlan.addresses, SegmentPlan.links, SegmentPlan.bounds, none, written_nil]
  case h_2 subnet chosen =>
    obtain ⟨hosts, middle, found, wrote⟩ := Stage.outcome_bind_eq_ok.mp run
    obtain ⟨enough, rfl⟩ := Stage.outcome_require_eq_ok.mp found
    cases wrote
    refine ⟨?_, fun other same => ?_⟩
    · have value : (plan.hosts? subnet).getD [] = hosts := by
        rw [SegmentPlan.hosts?, enough]
        rfl
      rw [← writePlan_eq chosen, value]
    · cases chosen.symm.trans same
      exact ⟨hosts, enough⟩

/-- Assigning plans one after the other. -/
theorem forM_assignPlan_eq_ok {layer : Layer} {plans : List SegmentPlan}
    (run : (plans.forM (assignPlan layer)).outcome network = (.ok (), after)) :
    after = written layer.name network (plans.flatMap SegmentPlan.addresses)
        (plans.flatMap (SegmentPlan.links network)) (plans.flatMap SegmentPlan.bounds) ∧
      ∀ plan ∈ plans, ∀ subnet, plan.subnet = some subnet →
        ∃ hosts, plan.hosts? subnet = some hosts := by
  induction plans generalizing network with
  | nil =>
    cases run
    exact ⟨rfl, List.forall_mem_nil _⟩
  | cons plan rest inductionHypothesis =>
    obtain ⟨middle, first, others⟩ := Stage.outcome_forM_cons_eq_ok.mp run
    obtain ⟨rfl, enough⟩ := assignPlan_eq_ok first
    obtain ⟨rfl, all⟩ := inductionHypothesis others
    refine ⟨?_, List.forall_mem_cons.mpr ⟨enough, all⟩⟩
    rw [links_written, ← written_append]
    rfl

/-- A successful assignment writes what the completed plans give. -/
theorem assignSegments_eq_ok {config : Config} {layer : Layer}
    (run : (assignSegments config layer).outcome network = (.ok (), after)) :
    ∃ plans, completePlans network config layer = .ok plans ∧
      after = written layer.name network (plans.flatMap SegmentPlan.addresses)
        (plans.flatMap (SegmentPlan.links network)) (plans.flatMap SegmentPlan.bounds) ∧
      ∀ plan ∈ plans, ∀ subnet, plan.subnet = some subnet →
        ∃ hosts, plan.hosts? subnet = some hosts := by
  rw [assignSegments, Stage.outcome_get_bind] at run
  obtain ⟨plans, middle, look, wrote⟩ := Stage.outcome_bind_eq_ok.mp run
  obtain ⟨completed, rfl⟩ := Stage.outcome_ofExcept_eq_ok.mp look
  exact ⟨plans, completed, forM_assignPlan_eq_ok wrote⟩

end Addressing

end TopoPlan
