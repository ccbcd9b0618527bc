import TopoPlan.Proofs.Network.Layout

/-!
# Repeated searches for segments

A search for segments sees how objects are joined, in which layers connections take part,
and which interfaces know a layer.  It comes to interfaces through connections alone, so
what interfaces without connection know does not matter.  An assignment of addresses writes
to interfaces of segments, which know the layer already, and to management interfaces,
which have no connection: a search that is repeated afterwards finds the same segments.
The main statement is `ofLayer_of_assignAll`.
-/

namespace TopoPlan

namespace Network

/-- Objects are joined in the same way, connections take part in the same layers, and
interfaces at connections know the same layers. -/
structure SameWalks (before after : Network) : Prop where
  links : SameLinks before after
  layers : memberships.holds before after
  knows : ∀ layer port, (before.interface port).connection.isSome = true →
    Segments.knowsLayer after layer port = Segments.knowsLayer before layer port

/-- The frame of stages after which a search sees the same. -/
def walks : Frame where
  holds := SameWalks
  refl network := ⟨.refl network, memberships.refl network, fun _ _ _ => rfl⟩
  trans := by
    rintro first second third ⟨links, layers, knows⟩ ⟨moreLinks, moreLayers, moreKnows⟩
    refine ⟨links.trans moreLinks, memberships.trans layers moreLayers,
      fun layer port attached => ?_⟩
    rw [← links.link] at attached
    rw [moreKnows layer port attached]
    rw [links.link] at attached
    exact knows layer port attached

/-- The same links lead to the same opposite interface. -/
theorem SameLinks.opposite? {before after : Network} (same : SameLinks before after)
    (port : InterfaceId) : after.opposite? port = before.opposite? port := by
  unfold Network.opposite? Connection.otherEnd?
  simp only [same.link, same.source, same.target]

end Network

namespace Segments

open Network Stage

/-! ## Searches that see the same -/

/-- The interfaces that a search has yet to look at have connections. -/
def Attached (network : Network) (search : Search) : Prop :=
  ∀ port ∈ search.pending, (network.interface port).connection.isSome = true

section Growth

variable {network : Network} {layer : Layer} {search : Search}

/-- The search does not leave through an interface without a connection. -/
theorem crossPort_of_free {port : InterfaceId}
    (free : (network.interface port).connection = none) :
    crossPort network layer search port = search := by
  rw [crossPort, free]

variable (linked : network.Linked)

include linked

/-- The end that a crossed port adds is at the connection crossed. -/
theorem Attached.crossPort (attached : Attached network search) (port : InterfaceId) :
    Attached network (crossPort network layer search port) := by
  rcases crossPort_cases search port with ⟨same, _⟩ | ⟨found, link, participates, _, same⟩
  · rw [same]
    exact attached
  · rw [same]
    refine List.forall_mem_append.mpr ⟨fun other opposite => ?_, attached⟩
    have isEnd := hasEnd_of_opposite link (Option.mem_toList.mp opposite)
    rw [(linked.ends found participates.1 other isEnd).2]
    rfl

/-- A search that looks at an interface stays on attached ones. -/
theorem Attached.lookAt (attached : Attached network search) (id : InterfaceId) :
    Attached network (lookAt network layer search id) := by
  unfold Segments.lookAt
  split
  · split
    · exact attached
    · exact attached
  · exact List.foldlRecOn (motive := Attached network) _ _ attached
      fun _ attached port _ => attached.crossPort linked port

end Growth

section Congruence

variable {before after : Network} (same : SameWalks before after) {layer : Layer}

include same

/-- Whether a connection takes part depends on what the search reads alone. -/
theorem takesPart_congr (id : ConnectionId) :
    takesPart after layer id = takesPart before layer id := by
  rw [takesPart, takesPart, same.layers]

/-- Where the search goes from an interface depends on what it reads alone. -/
theorem crossPort_congr (search : Search) (port : InterfaceId) :
    crossPort after layer search port = crossPort before layer search port := by
  unfold crossPort
  simp only [same.links.link, same.links.opposite?, takesPart_congr same]

/-- Ports without connection are crossed in vain, so it does not matter whether they
bridge. -/
theorem foldl_bridgedPorts_congr (search : Search) (id : InterfaceId) :
    (bridgedPorts after layer id).foldl (crossPort after layer) search =
      (bridgedPorts before layer id).foldl (crossPort before layer) search := by
  unfold bridgedPorts
  rw [List.foldl_filter, List.foldl_filter, same.links.node, same.links.ports]
  refine List.foldl_ext _ _ search fun search port _ => ?_
  rw [crossPort_congr same]
  cases link : (before.interface port).connection with
  | none => rw [crossPort_of_free link, ite_self, ite_self]
  | some found => rw [same.knows layer port (by rw [link]; rfl)]

/-- What the search finds at an interface depends on what it reads alone. -/
theorem lookAt_congr (search : Search) {id : InterfaceId}
    (attached : (before.interface id).connection.isSome = true) :
    lookAt after layer search id = lookAt before layer search id := by
  unfold lookAt
  rw [same.knows layer id attached, foldl_bridgedPorts_congr same]

variable (linked : before.Linked)

include linked

/-- What the search finds depends on what it reads alone. -/
theorem explore_congr (steps : Nat) {search : Search} (attached : Attached before search) :
    explore after layer steps search = explore before layer steps search := by
  induction steps generalizing search with
  | zero => rfl
  | succ steps inductionHypothesis =>
    unfold explore
    cases pending : search.pending with
    | nil => rfl
    | cons id rest =>
      rw [Attached, pending] at attached
      obtain ⟨first, others⟩ := List.forall_mem_cons.mp attached
      have later : Attached before { search with pending := rest } := others
      dsimp only
      rw [lookAt_congr same _ first]
      exact inductionHypothesis (later.lookAt linked id)

/-- Every search starts at the ends of a connection. -/
theorem searchFrom_congr (reached : List ConnectionId) {id : ConnectionId}
    (inside : id < before.connections.size) :
    searchFrom after layer reached id = searchFrom before layer reached id := by
  unfold searchFrom
  dsimp only
  rw [same.links.connectionCount, same.links.source, same.links.target]
  refine explore_congr same linked _ fun port listed => ?_
  have isEnd : (before.connection id).HasEnd port := by
    rcases List.mem_cons.mp listed with source | target
    · exact .inl source.symm
    · exact .inr (List.mem_singleton.mp target).symm
  rw [(linked.ends id inside port isEnd).2]
  rfl

/-- A search that sees the same finds the same segments. -/
theorem ofLayer_congr (layer : Layer) : ofLayer after layer = ofLayer before layer := by
  unfold ofLayer connectionIds
  rw [same.links.connectionCount]
  refine congrArg Prod.snd (List.foldl_ext _ _ _ fun (reached, segments) id listed => ?_)
  unfold step
  dsimp only
  rw [takesPart_congr same, searchFrom_congr same linked _ (List.mem_range.mp listed)]

end Congruence

/-! ## The search leaves alone what it sees -/

section Frames

variable {config : Config}

/-- A new segment leaves what the search reads as it is. -/
theorem walks_addSegment (network : Network) (segment : Segment) :
    walks.holds network (network.addSegment segment) :=
  ⟨{ SameLinks.refl network with }, memberships.refl network, fun _ _ _ => rfl⟩

/-- A neighbor leaves what the search reads as it is. -/
theorem walks_addNeighbor (network : Network) (neighbor : Neighbor) :
    walks.holds network (network.addNeighbor neighbor) := by
  refine ⟨(outlined_addNeighbor network neighbor).1, memberships.refl network,
    fun layer port _ => ?_⟩
  unfold knowsLayer
  dsimp only
  rw [interface_addNeighbor_field Interface.policies fun _ _ => rfl,
    interface_addNeighbor_field Interface.parameters fun _ _ => rfl]

/-- A class of a segment leaves what the search reads as it is. -/
theorem walks_applyClass (network : Network) (id : SegmentId) (definition : SegmentClass) :
    walks.holds network (applyClass network id definition) := by
  have links := (outlined_applyClass network id definition).1
  have objects : (applyClass network id definition).connections = network.connections ∧
      (applyClass network id definition).interfaces = network.interfaces := by
    unfold applyClass
    dsimp only
    split
    · exact ⟨rfl, rfl⟩
    · unfold Network.enter
      split <;> exact ⟨rfl, rfl⟩
  refine ⟨links, fun link => ?_, fun layer port _ => ?_⟩
  · rw [connection, objects.1, connection]
  · rw [knowsLayer, interface, objects.2, knowsLayer, interface]

/-- The search of a layer leaves what the search reads as it is. -/
theorem addLayer_keeps_walks (layer : Layer) : Within walks (addLayer config layer) :=
  addLayer_within walks_addSegment walks_addNeighbor walks_applyClass layer

end Frames

/-- Interfaces of a segment have connections and know its layer. -/
def Aware (network : Network) (segment : Segment) : Prop :=
  ∀ port ∈ segment.interfaces, (network.interface port).connection.isSome = true ∧
    ∀ layer : Layer, layer.name = segment.layer → knowsLayer network layer port = true

/-- Whether a segment is aware depends on what the search reads alone. -/
theorem Aware.congr {before after : Network} {segment : Segment} (aware : Aware before segment)
    (same : SameWalks before after) : Aware after segment := by
  intro port listed
  obtain ⟨attached, knows⟩ := aware port listed
  refine ⟨?_, fun layer name => ?_⟩
  · rwa [same.links.link]
  · rw [same.knows layer port attached]
    exact knows layer name

/-- Segments that are found consist of interfaces that know the layer. -/
theorem aware_of_mem_ofLayer {network : Network} {layer : Layer} (linked : network.Linked)
    {segment : Segment} (listed : segment ∈ ofLayer network layer) : Aware network segment := by
  have domains : BroadcastDomains network layer (ofLayer network layer) := domains_ofLayer linked
  intro port member
  refine ⟨(domains.wired linked segment listed).2 port member, fun other name => ?_⟩
  rw [(new_of_mem_ofLayer listed).1] at name
  have knows := (((domains.interfaces segment listed).2 port).mp member).1
  unfold knowsLayer at knows ⊢
  rwa [name]

end Segments

namespace Network

open Segments

/-- Interfaces of segments have connections and know the layers of their segments, and
management interfaces have no connection. -/
structure Tuned (network : Network) : Prop where
  aware : ∀ id, id < network.segments.size → Aware network (network.segment id)
  detached : network.Detached

/-- A searched network is tuned. -/
theorem tuned_of_searched {config : Config} {network : Network}
    (searched : Searched config network) : network.Tuned where
  aware id inside := by
    have aware : ∀ segment ∈ network.outlines, Aware network segment :=
      outlines_of_searched Aware addLayer_keeps_walks (fun _ _ same _ aware => aware.congr same)
        (fun _ _ linked _ listed => aware_of_mem_ofLayer linked listed) searched
    have known := aware _ (outline_mem_outlines inside)
    exact known
  detached := detached_of_searched searched

/-- Whether a network is tuned depends on standing and on what the search reads alone. -/
theorem Tuned.congr {before after : Network} (tuned : before.Tuned)
    (standing : SameStanding before after) (walks : SameWalks before after) : after.Tuned where
  aware id inside := by
    rw [standing.segmentCount] at inside
    have aware := (tuned.aware id inside).congr walks
    rwa [Aware, ← standing.layer, ← standing.ports] at aware
  detached := tuned.detached.congr fun id =>
    ⟨congrArg Prod.snd (standing.interface id), walks.links.link id⟩

end Network

namespace Addressing

open Network Segments Stage

variable {config : Config} {layer : Layer} {network after : Network}

/-! ## Assignments leave alone what a search sees -/

/-- What an interface knows depends on its policies and on its address. -/
theorem knowsLayer_congr {other : Layer} {port : InterfaceId} (standing : SameStanding network after)
    (address : (after.interface port).parameters.get? (addressKey other.name) =
      (network.interface port).parameters.get? (addressKey other.name)) :
    knowsLayer after other port = knowsLayer network other port := by
  unfold knowsLayer
  dsimp only
  rw [standing.policies, Parameters.has_eq_isSome, Parameters.has_eq_isSome, address]

/-- Interfaces that are in no segment of a layer get no address in it. -/
theorem Assignment.interface_of_not_mem {plans final : List SegmentPlan} {port : InterfaceId}
    (assignment : Assignment config layer network after plans final)
    (valid : config.validate = .ok ()) (member : layer ∈ config.layers)
    (absent : ∀ id ∈ network.segmentsIn layer.name, port ∉ (network.segment id).interfaces) :
    after.interface port = network.interface port := by
  rw [assignment.wrote]
  refine getD_foldl_modify_of_not_mem Prod.fst (addressed layer.name) network.interfaces default ?_
  intro written
  obtain ⟨entry, listed, rfl⟩ := List.mem_map.mp written
  obtain ⟨plan, planned, given⟩ := List.mem_flatMap.mp listed
  obtain ⟨subnet, hosts, settles⟩ := assignment.exists_settles valid member planned
  have onLayer := ((assignment.mem_iff _).mp (List.mem_map_of_mem planned)).1
  exact absent plan.segment onLayer (settles.interfaces_perm.mem_iff.mp (List.mem_map_of_mem given))

/-- An assignment writes to interfaces that know the layer, and they know no other layer by
it. -/
theorem sameWalks_of_assignSegments (valid : config.validate = .ok ())
    (member : layer ∈ config.layers) (laid : network.Laid) (tuned : network.Tuned)
    (run : (assignSegments config layer).outcome network = (.ok (), after)) :
    SameWalks network after := by
  have layout := (assignSegments_within layout_valueless config layer).holds run
  refine ⟨layout.links, layout.layers, fun other port _ => ?_⟩
  by_cases name : other.name = layer.name
  · by_cases onLayer : ∃ id ∈ network.segmentsIn layer.name,
        port ∈ (network.segment id).interfaces
    · obtain ⟨id, listed, onSegment⟩ := onLayer
      obtain ⟨inside, own⟩ := List.mem_filter.mp listed
      have knew : knowsLayer network other port = true :=
        (tuned.aware id (List.mem_range.mp inside) port onSegment).2 other
          (name.trans (beq_iff_eq.mp own).symm)
      obtain ⟨subnet, settled⟩ := (settledLayer_of_assignSegments valid member laid run).segments id
        (by rwa [layout.standing.segmentsIn])
        (by rw [layout.standing.ports]; exact List.ne_nil_of_mem onSegment)
      rw [← layout.standing.ports] at onSegment
      obtain ⟨address, has⟩ := settled.interfaces port onSegment
      have given : (after.interface port).parameters.has (addressKey other.name) = true := by
        rw [Parameters.has_eq_isSome, name, ← givenAddress?, has.text]
        rfl
      rw [knew, knowsLayer, given, Bool.or_true]
    · obtain ⟨plans, final, assignment⟩ := assignment_of_outcome valid member run
      rw [knowsLayer, knowsLayer, assignment.interface_of_not_mem valid member
        fun id listed onSegment => onLayer ⟨id, listed, onSegment⟩]
  · obtain ⟨_, _, wrote, _⟩ := assignSegments_eq_ok run
    refine knowsLayer_congr layout.standing ?_
    rw [wrote]
    exact parameter_written name (by simp [addressKeys]) _ _ _ port

/-- Loopbacks are addresses of nodes. -/
theorem interfaces_of_assignLoopbacks {policy : Policy}
    (run : (assignLoopbacks layer policy).outcome network = (.ok (), after)) :
    after.interfaces = network.interfaces := by
  obtain ⟨_, _, _, _, state, _, blocks, _, rfl⟩ := assignLoopbacks_eq_ok.mp run
  exact List.foldlRecOn (motive := fun current : Network =>
    current.interfaces = network.interfaces) (state.2.zip blocks) (giveLoopback layer.name) rfl
    fun _ same _ _ => same

/-- Loopbacks leave what the search reads as it is. -/
theorem sameWalks_of_assignLoopbacks {policy : Policy}
    (run : (assignLoopbacks layer policy).outcome network = (.ok (), after)) :
    SameWalks network after := by
  have layout := (assignLoopbacks_within layout_valueless layer policy).holds run
  refine ⟨layout.links, layout.layers, fun other port _ => ?_⟩
  rw [knowsLayer, interface, interfaces_of_assignLoopbacks run, knowsLayer, interface]

/-- Management interfaces have no connection, and no other interface is written to. -/
theorem sameWalks_of_assignManagement (detached : network.Detached)
    (run : (assignManagement config).outcome network = (.ok (), after)) :
    SameWalks network after := by
  have layout := (assignManagement_within layout_valueless config).holds run
  refine ⟨layout.links, layout.layers, fun other port attached => ?_⟩
  have ordinary : (network.interface port).isManagement = false := by
    cases management : (network.interface port).isManagement with
    | false => rfl
    | true =>
      rw [detached port management] at attached
      cases attached
  rw [knowsLayer, interface_of_assignManagement ordinary run, knowsLayer]

/-- What is known of a network between the assignments of two layers, when a search before
the first one saw `start`. -/
structure Retraceable (start network : Network) : Prop where
  same : SameWalks start network
  laid : network.Laid
  tuned : network.Tuned

/-- A search can be retraced as long as standing and what it reads stay. -/
theorem Retraceable.next {start : Network} (retraceable : Retraceable start network)
    (standing : SameStanding network after) (same : SameWalks network after) :
    Retraceable start after :=
  ⟨walks.trans retraceable.same same, retraceable.laid.congr standing,
    retraceable.tuned.congr standing same⟩

/-- A search can be retraced after a layer is assigned. -/
theorem Retraceable.assignLayer {start : Network} (retraceable : Retraceable start network)
    (valid : config.validate = .ok ()) (member : layer ∈ config.layers)
    (run : (assignLayer config layer).outcome network = (.ok (), after)) :
    Retraceable start after := by
  obtain ⟨_, middle, segments, loopbacks⟩ := outcome_bind_eq_ok.mp run
  have addressed : Retraceable start middle := retraceable.next
    ((assignSegments_within standing_valueless config layer).holds segments)
    (sameWalks_of_assignSegments valid member retraceable.laid retraceable.tuned segments)
  refine outcome_forM_induction (Retraceable start) (fun policy _ before next step known => ?_)
    loopbacks addressed
  exact known.next ((assignLoopbacks_within standing_valueless layer policy).holds step)
    (sameWalks_of_assignLoopbacks step)

/-- An assignment of addresses leaves the segments that a search finds as they are: a search
that is repeated afterwards finds, in every layer, the same segments in the same order. -/
theorem ofLayer_of_assignAll (valid : config.validate = .ok ()) (searched : Searched config network)
    (run : (assignAll config).outcome network = (.ok (), after)) (layer : Layer) :
    ofLayer after layer = ofLayer network layer := by
  obtain ⟨_, middle, layers, management⟩ := outcome_bind_eq_ok.mp run
  have start : Retraceable network network :=
    ⟨walks.refl network, laid_of_searched valid searched, tuned_of_searched searched⟩
  have assigned : Retraceable network middle :=
    outcome_forM_induction (Retraceable network)
      (fun layer member before next step known => known.assignLayer valid member step) layers start
  have last : SameWalks middle after :=
    sameWalks_of_assignManagement assigned.tuned.detached management
  exact ofLayer_congr (walks.trans assigned.same last) (consistent_of_searched searched).linked layer

end Addressing

namespace Lodge

open Network Segments

/-- A layer. -/
def layer : Layer where
  name := "ip"
  connectsByDefault := true
  policies := [{ name := "rooms", range := "10.0.0.0/16", subnetLength := 24 }]

/-- The layer of management interfaces has the name of the other layer. -/
def config : Config where
  name := "lodge"
  layers := [layer]
  management := some { name := "ip", range := "192.168.0.0/29" }
  nodeClasses := [{ name := "host", interfacePolicies := ["rooms"] },
    { name := "switch", primary := true, managementClass := some "console" }]
  interfaceClasses := [{ name := "console" }]

/-- Two hosts on both sides of a switch. -/
def topology : Topology where
  nodes := [{ name := "a", labels := ["host"] }, { name := "s", labels := ["switch"] },
    { name := "b", labels := ["host"] }]
  edges := [{ source := "a", target := "s" }, { source := "s", target := "b" }]

/-- The network of the topology. -/
def built : Network := (ofTopology config topology).toOption.getD {}

/-- The network after resolution. -/
def resolved : Network := ((resolve config {}).outcome built).2

/-- The network with its segment. -/
def searched : Network := ((Segments.addAll config).outcome resolved).2

/-- The network with its addresses. -/
def assigned : Network := ((Addressing.assignAll config).outcome searched).2

/-- By its address the management interface of the switch knows the layer that it did not know
before, and the switch still joins its two connections. -/
theorem ofLayer_of_console :
    config.validate = .ok () ∧ Searched config searched ∧
      (Addressing.assignAll config).outcome searched = (.ok (), assigned) ∧
      (∀ layer : Layer, ofLayer assigned layer = ofLayer searched layer) ∧
      knowsLayer searched layer 4 = false ∧ knowsLayer assigned layer 4 = true ∧
      (ofLayer assigned layer).map (fun segment => (segment.connections, segment.interfaces)) =
        [([0, 1], [0, 3])] := by
  have valid : config.validate = .ok () := by decide +kernel
  have found : Searched config searched :=
    ⟨topology, {}, built, resolved, Outcome.eq_ok_of_isOk {} (by decide +kernel),
      Stage.outcome_eq_ok (by decide +kernel), Stage.outcome_eq_ok (by decide +kernel)⟩
  have run : (Addressing.assignAll config).outcome searched = (.ok (), assigned) :=
    Stage.outcome_eq_ok (by decide +kernel)
  exact ⟨valid, found, run, Addressing.ofLayer_of_assignAll valid found run, by decide +kernel,
    by decide +kernel, by decide +kernel⟩

end Lodge

end TopoPlan
