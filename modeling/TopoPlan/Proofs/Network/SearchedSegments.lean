import TopoPlan.Proofs.Config.Layers
import TopoPlan.Proofs.Network.Domains

/-!
# Networks whose segments have been searched

A network is `Searched` when it comes from a topology by resolution and one search for
segments.  Its segments have no subnet yet, and those of one layer share no interface
and no connection; `partitioned_of_searched` is the main statement.
-/

namespace TopoPlan

/-- A segment without its classes and parameters. -/
def Segment.outline (segment : Segment) : Segment :=
  { segment with classes := [], parameters := {} }

namespace Network

/-- The segments without their classes and parameters. -/
def outlines (network : Network) : List Segment :=
  network.segments.toList.map Segment.outline

/-- A network of a topology after resolution and one search for segments. -/
def Searched (config : Config) (network : Network) : Prop :=
  ∃ topology extra built resolved, ofTopology config topology = .ok built ∧
    (resolve config extra).outcome built = (.ok (), resolved) ∧
    (Segments.addAll config).outcome resolved = (.ok (), network)

/-- Segments consist of interfaces and connections of the network, without
repetition. -/
structure Bounded (network : Network) (segment : Segment) : Prop where
  interfacesOnce : segment.interfaces.Nodup
  interfaces : ∀ port ∈ segment.interfaces, port < network.interfaces.size
  connectionsOnce : segment.connections.Nodup
  connections : ∀ id ∈ segment.connections, id < network.connections.size

/-- Two segments share no interface and no connection. -/
def Apart (left right : Segment) : Prop :=
  left.interfaces.Disjoint right.interfaces ∧ left.connections.Disjoint right.connections

/-- Segments of one layer are apart, and none has a subnet. -/
structure Partitioned (network : Network) : Prop where
  unbound : ∀ segment ∈ network.outlines, segment.subnet = none
  bounded : ∀ segment ∈ network.outlines, network.Bounded segment
  apart : network.outlines.Pairwise fun left right => left.layer = right.layer → Apart left right

/-- The frame of stages that leave the segments alone, up to classes and parameters,
and how objects are joined. -/
def outlined : Frame where
  holds before after := SameLinks before after ∧ after.outlines = before.outlines
  refl network := ⟨.refl network, rfl⟩
  trans first second := ⟨first.1.trans second.1, second.2.trans first.2⟩

/-- The frame of stages that leave alone in which layers connections take part. -/
def memberships : Frame where
  holds before after := ∀ id, (after.connection id).layers = (before.connection id).layers
  refl _ _ := rfl
  trans first second id := (second id).trans (first id)

/-- There are no segments before they are searched. -/
theorem Prepared.outlines_eq_nil {network : Network} {count : Nat}
    (prepared : network.Prepared count) : network.outlines = [] := by
  rw [outlines, prepared.unsegmented]
  rfl

/-- The same shape has the same outlines. -/
theorem SameShape.outlined {before after : Network} (same : SameShape before after) :
    outlined.holds before after :=
  ⟨same.toSameLinks, by rw [outlines, outlines, same.segments]⟩

/-- Whether a segment is bounded depends on the links alone. -/
theorem SameLinks.bounded {before after : Network} {segment : Segment} (same : SameLinks before after)
    (bounded : before.Bounded segment) : after.Bounded segment where
  interfacesOnce := bounded.interfacesOnce
  interfaces port listed := same.interfaceCount.symm ▸ bounded.interfaces port listed
  connectionsOnce := bounded.connectionsOnce
  connections id listed := same.connectionCount.symm ▸ bounded.connections id listed

/-- A change of a segment that keeps its outline keeps those of the network. -/
theorem outlined_updateSegment (network : Network) {id : SegmentId} {change : Segment → Segment}
    (keeps : ∀ segment, (change segment).outline = segment.outline) :
    outlined.holds network (network.updateSegment id change) := by
  refine ⟨{ SameLinks.refl network with }, ?_⟩
  apply List.ext_getElem?
  intro position
  simp only [outlines, List.getElem?_map, Array.getElem?_toList, updateSegment,
    Array.getElem?_modify]
  split
  · cases network.segments[position]? with
    | none => rfl
    | some segment => exact congrArg some (keeps segment)
  · rfl

end Network

namespace Segments

open Network Stage

variable {config : Config} {before after : Network}

/-- A neighbor leaves the outlines as they are. -/
theorem outlined_addNeighbor (network : Network) (neighbor : Neighbor) :
    outlined.holds network (network.addNeighbor neighbor) := by
  have added : SameShape network { network with neighbors := network.neighbors.push neighbor } :=
    { shape.refl network with }
  refine SameShape.outlined (shape.trans added ?_)
  exact sameShape_updateInterface _ (fun _ => rfl) fun _ => rfl

/-- A class of a segment leaves the outlines as they are. -/
theorem outlined_applyClass (network : Network) (id : SegmentId) (definition : SegmentClass) :
    outlined.holds network (applyClass network id definition) := by
  unfold applyClass
  dsimp only
  split
  · exact outlined.refl network
  · refine outlined.trans ?_ (sameShape_enter _ _ _ _).outlined
    exact network.outlined_updateSegment fun _ => rfl

/-- The classes of a segment keep every frame that one class keeps. -/
theorem applyClasses_within {frame : Frame} {id : SegmentId}
    (applies : ∀ network definition, frame.holds network (applyClass network id definition)) :
    Within frame (applyClasses config id) := by
  refine within_bind within_get fun network => within_forM fun request _ => ?_
  exact within_bind (within_require _ _) fun definition =>
    within_modify fun current => applies current definition

section Frames

variable {frame : Frame}
  (adds : ∀ network segment, frame.holds network (network.addSegment segment))
  (enters : ∀ network neighbor, frame.holds network (network.addNeighbor neighbor))
  (applies : ∀ network id definition, frame.holds network (applyClass network id definition))

include adds enters applies

/-- What the parts of a search for segments keep, the search in one layer keeps. -/
theorem addLayer_within (layer : Layer) : Within frame (addLayer config layer) := by
  refine within_bind within_get fun _ => within_forM fun segment _ => ?_
  refine within_bind within_get fun network => ?_
  refine within_bind (within_modify fun current => adds current segment) fun _ => ?_
  refine within_bind (within_modify fun current => ?_) fun _ =>
    applyClasses_within fun current => applies current network.segments.size
  exact frame.foldl (fun joined => joined) enters current _

end Frames

/-- The search leaves alone in which layers connections take part. -/
theorem layers_of_addLayer {layer : Layer}
    (run : (addLayer config layer).outcome before = (.ok (), after)) :
    memberships.holds before after := by
  refine Within.holds (addLayer_within (fun network _ => memberships.refl network)
    (fun network _ => memberships.refl network) (fun network id definition => ?_) layer) run
  unfold applyClass
  dsimp only
  split
  · exact memberships.refl network
  · unfold Network.enter
    split <;> exact memberships.refl network

/-- Adding a segment adds its outline. -/
theorem addSegment_eq_ok {segment : Segment}
    (run : (addSegment config segment).outcome before = (.ok (), after)) :
    SameLinks before after ∧ after.outlines = before.outlines ++ [segment.outline] := by
  unfold addSegment at run
  rw [outcome_get_bind] at run
  dsimp only at run
  rw [outcome_modify_bind, outcome_modify_bind] at run
  let added := before.addSegment segment
  let joined := (neighborsIn added segment.layer segment.interfaces).foldl addNeighbor added
  have entered : outlined.holds added joined :=
    outlined.foldl (fun current => current) outlined_addNeighbor added _
  have classified : outlined.holds joined after :=
    (applyClasses_within fun network => outlined_applyClass network _).holds run
  obtain ⟨same, outlines⟩ := outlined.trans entered classified
  have start : SameLinks before added := { SameLinks.refl before with }
  refine ⟨start.trans same, ?_⟩
  rw [outlines]
  simp [added, Network.outlines, Network.addSegment]

/-- Adding segments one after the other. -/
theorem forM_addSegment_eq_ok {segments : List Segment}
    (run : (segments.forM (addSegment config)).outcome before = (.ok (), after)) :
    SameLinks before after ∧
      after.outlines = before.outlines ++ segments.map Segment.outline := by
  induction segments generalizing before with
  | nil =>
    cases run
    exact ⟨.refl _, (List.append_nil _).symm⟩
  | cons segment rest inductionHypothesis =>
    obtain ⟨middle, first, others⟩ := outcome_forM_cons_eq_ok.mp run
    obtain ⟨same, outlines⟩ := addSegment_eq_ok first
    obtain ⟨more, all⟩ := inductionHypothesis others
    refine ⟨same.trans more, ?_⟩
    rw [all, outlines, List.append_assoc]
    rfl

/-- New segments belong to the layer and have no subnet, classes or parameters. -/
def New (layer : Layer) (segment : Segment) : Prop :=
  segment.layer = layer.name ∧ segment.subnet = none ∧ segment.outline = segment ∧
    segment.attachments = []

/-- The segments found in a layer are new ones. -/
theorem new_of_mem_ofLayer {network : Network} {layer : Layer} {segment : Segment}
    (listed : segment ∈ ofLayer network layer) : New layer segment := by
  have all : ∀ (ids : List ConnectionId) (state : List ConnectionId × List Segment),
      (∀ segment ∈ state.2, New layer segment) →
        ∀ segment ∈ (ids.foldl (step network layer) state).2, New layer segment := by
    intro ids
    induction ids with
    | nil => exact fun _ holds => holds
    | cons id rest inductionHypothesis =>
      intro state holds
      apply inductionHypothesis (step network layer state id)
      unfold step
      dsimp only
      split
      · exact holds
      · intro segment listed
        rcases List.mem_append.mp listed with old | last
        · exact holds segment old
        · rw [List.mem_singleton.mp last]
          exact ⟨rfl, rfl, rfl, rfl⟩
  exact all _ ([], []) (List.forall_mem_nil _) segment listed

/-- Segments that are broadcast domains consist of interfaces and connections of the
network. -/
theorem BroadcastDomains.bounded {network : Network} {layer : Layer} {segments : List Segment}
    (domains : BroadcastDomains network layer segments) (linked : network.Linked) :
    ∀ segment ∈ segments, network.Bounded segment := by
  intro segment listed
  have participates : ∀ id ∈ segment.connections, Participates network layer id := fun id member =>
    (domains.participating id).mp (List.mem_flatMap.mpr ⟨segment, listed, member⟩)
  refine ⟨(domains.interfaces segment listed).1, fun port member => ?_,
    (List.nodup_flatMap.mp domains.once).1 segment listed, fun id member => (participates id member).1⟩
  obtain ⟨_, id, connection, isEnd⟩ := ((domains.interfaces segment listed).2 port).mp member
  exact (linked.ends id (participates id connection).1 port isEnd).1

/-- Broadcast domains share no connection, so they share no interface: an interface is
an end of one connection only. -/
theorem BroadcastDomains.apart {network : Network} {layer : Layer} {segments : List Segment}
    (domains : BroadcastDomains network layer segments) (linked : network.Linked) :
    segments.Pairwise Apart := by
  have disjoint := (List.nodup_flatMap.mp domains.once).2
  refine disjoint.imp_of_mem fun {left right} leftListed rightListed connections => ?_
  refine ⟨?_, connections⟩
  intro port leftMember rightMember
  obtain ⟨_, first, leftConnection, leftEnd⟩ :=
    ((domains.interfaces left leftListed).2 port).mp leftMember
  obtain ⟨_, second, rightConnection, rightEnd⟩ :=
    ((domains.interfaces right rightListed).2 port).mp rightMember
  have firstInside := ((domains.participating first).mp
    (List.mem_flatMap.mpr ⟨left, leftListed, leftConnection⟩)).1
  have secondInside := ((domains.participating second).mp
    (List.mem_flatMap.mpr ⟨right, rightListed, rightConnection⟩)).1
  have one := (linked.ends first firstInside port leftEnd).2
  have other := (linked.ends second secondInside port rightEnd).2
  cases one.symm.trans other
  exact connections leftConnection rightConnection

/-- Which connections take part in a layer depends on the layers of connections alone. -/
theorem participates_congr (same : SameLinks before after) (layers : memberships.holds before after)
    {layer other : Layer} (name : layer.name = other.name) (link : ConnectionId) :
    Participates after layer link ↔ Participates before other link := by
  rw [Participates, Participates, takesPart, takesPart, same.connectionCount, layers, name]

/-- What holds when the segments of some layers have been added. -/
structure Adding (done : List String) (network : Network) : Prop where
  linked : network.Linked
  layers : ∀ segment ∈ network.outlines, segment.layer ∈ done
  partitioned : network.Partitioned
  participating : ∀ layer : Layer, layer.name ∈ done → ∀ link,
    (∃ segment ∈ network.outlines, segment.layer = layer.name ∧ link ∈ segment.connections) ↔
      Participates network layer link

/-- The segments of a layer come after those that there were. -/
theorem outlines_of_addLayer {layer : Layer}
    (run : (Segments.addLayer config layer).outcome before = (.ok (), after)) :
    SameLinks before after ∧ after.outlines = before.outlines ++ ofLayer before layer := by
  rw [Segments.addLayer, outcome_get_bind] at run
  obtain ⟨same, outlines⟩ := forM_addSegment_eq_ok run
  refine ⟨same, outlines.trans (congrArg (before.outlines ++ ·) ?_)⟩
  have new : ∀ segment ∈ ofLayer before layer, Segment.outline segment = id segment :=
    fun segment listed => (new_of_mem_ofLayer listed).2.2.1
  rw [List.map_congr_left new, List.map_id]

section AddedLayer

variable {done : List String} {layer : Layer} (adding : Adding done before)
  (fresh : layer.name ∉ done)

include adding fresh

/-- Segments of one layer share nothing once the segments of a new layer are there. -/
theorem Adding.apart_append :
    (before.outlines ++ ofLayer before layer).Pairwise fun left right =>
      left.layer = right.layer → Apart left right := by
  have domains : BroadcastDomains before layer (ofLayer before layer) :=
    domains_ofLayer adding.linked
  refine List.pairwise_append.mpr ⟨adding.partitioned.apart, ?_, ?_⟩
  · refine (domains.apart adding.linked).imp ?_
    intro left right apart _
    exact apart
  · intro left old right own layers
    rw [(new_of_mem_ofLayer own).1] at layers
    exact absurd (layers ▸ adding.layers left old) fresh

/-- The segments of a new layer change nothing for the layers before. -/
theorem Adding.mem_append_of_mem {other : Layer} (known : other.name ∈ done)
    (link : ConnectionId) :
    (∃ segment ∈ before.outlines ++ ofLayer before layer,
        segment.layer = other.name ∧ link ∈ segment.connections) ↔
      Participates before other link := by
  have different : layer.name ≠ other.name := fun same => fresh (same ▸ known)
  rw [← adding.participating other known]
  constructor
  · rintro ⟨segment, listed, own, member⟩
    rcases List.mem_append.mp listed with old | new
    · exact ⟨segment, old, own, member⟩
    · exact absurd ((new_of_mem_ofLayer new).1.symm.trans own) different
  · rintro ⟨segment, old, own, member⟩
    exact ⟨segment, List.mem_append_left _ old, own, member⟩

/-- The connections of the segments of a new layer are those that take part in it. -/
theorem Adding.mem_append_of_name (link : ConnectionId) :
    (∃ segment ∈ before.outlines ++ ofLayer before layer,
        segment.layer = layer.name ∧ link ∈ segment.connections) ↔
      Participates before layer link := by
  have domains : BroadcastDomains before layer (ofLayer before layer) :=
    domains_ofLayer adding.linked
  rw [← domains.participating, List.mem_flatMap]
  constructor
  · rintro ⟨segment, listed, own, member⟩
    rcases List.mem_append.mp listed with old | new
    · exact absurd (own ▸ adding.layers segment old) fresh
    · exact ⟨segment, new, member⟩
  · rintro ⟨segment, new, member⟩
    exact ⟨segment, List.mem_append_right _ new, (new_of_mem_ofLayer new).1, member⟩

end AddedLayer

/-- Adding the segments of a layer that has none yet. -/
theorem Adding.addLayer {done : List String} {layer : Layer} (adding : Adding done before)
    (fresh : layer.name ∉ done)
    (run : (Segments.addLayer config layer).outcome before = (.ok (), after)) :
    Adding (done ++ [layer.name]) after := by
  have kept := layers_of_addLayer run
  obtain ⟨same, outlines⟩ := outlines_of_addLayer run
  have domains : BroadcastDomains before layer (ofLayer before layer) :=
    domains_ofLayer adding.linked
  constructor
  case linked => exact same.linked adding.linked
  case layers =>
    intro segment listed
    rw [outlines] at listed
    rcases List.mem_append.mp listed with old | own
    · exact List.mem_append_left _ (adding.layers segment old)
    · rw [(new_of_mem_ofLayer own).1]
      exact List.mem_append_right _ (List.mem_singleton_self _)
  case partitioned =>
    constructor
    case unbound =>
      intro segment listed
      rw [outlines] at listed
      rcases List.mem_append.mp listed with old | own
      · exact adding.partitioned.unbound segment old
      · exact (new_of_mem_ofLayer own).2.1
    case bounded =>
      intro segment listed
      rw [outlines] at listed
      rcases List.mem_append.mp listed with old | own
      · exact same.bounded (adding.partitioned.bounded segment old)
      · exact same.bounded (domains.bounded adding.linked segment own)
    case apart =>
      rw [outlines]
      exact adding.apart_append fresh
  case participating =>
    intro other known link
    rw [outlines]
    rcases List.mem_append.mp known with earlier | last
    · rw [participates_congr same kept rfl]
      exact adding.mem_append_of_mem fresh earlier link
    · have name : other.name = layer.name := List.mem_singleton.mp last
      rw [participates_congr same kept name, name]
      exact adding.mem_append_of_name fresh link

/-- What adding the segments of a layer makes of the layers before, in the order of layers with
different names. -/
theorem forM_addLayer_induction {motive : List String → Network → Prop}
    (step : ∀ (done : List String) (layer : Layer) before after, layer.name ∉ done →
      (addLayer config layer).outcome before = (.ok (), after) → motive done before →
        motive (done ++ [layer.name]) after)
    {done : List String} {layers : List Layer} (names : (done ++ layers.map (·.name)).Nodup)
    (run : (layers.forM (addLayer config)).outcome before = (.ok (), after))
    (start : motive done before) : motive (done ++ layers.map (·.name)) after := by
  induction layers generalizing done before with
  | nil =>
    cases run
    rw [List.map_nil, List.append_nil]
    exact start
  | cons layer rest inductionHypothesis =>
    obtain ⟨middle, first, others⟩ := outcome_forM_cons_eq_ok.mp run
    rw [List.map_cons, ← List.singleton_append, ← List.append_assoc] at names ⊢
    have fresh : layer.name ∉ done := fun listed =>
      (List.nodup_append.mp (List.nodup_append.mp names).1).2.2 _ listed _
        (List.mem_singleton_self _) rfl
    exact inductionHypothesis names others (step done layer before middle fresh first start)

end Segments

namespace Network

/-- What holds when the segments of all layers have been added. -/
theorem adding_of_searched {config : Config} {network : Network}
    (valid : config.validate = .ok ()) (searched : Searched config network) :
    Segments.Adding (config.layers.map (·.name)) network := by
  obtain ⟨topology, extra, built, resolved, made, run, found⟩ := searched
  have prepared := prepared_of_resolve made run
  have outlines := prepared.outlines_eq_nil
  have partitioned : resolved.Partitioned := by
    constructor <;> rw [outlines]
    case unbound => exact List.forall_mem_nil _
    case bounded => exact List.forall_mem_nil _
    case apart => exact List.Pairwise.nil
  have start : Segments.Adding [] resolved :=
    { linked := prepared.linked
      layers := outlines ▸ List.forall_mem_nil _
      partitioned
      participating := fun _ known => absurd known List.not_mem_nil }
  have names := (Config.checkLayers_names (Config.checkLayers_of_validate valid)).1
  exact Segments.forM_addLayer_induction (fun _ _ _ _ fresh run adding => adding.addLayer fresh run)
    (by rwa [List.nil_append]) found start

/-- The segments of a searched network are apart within each layer. -/
theorem partitioned_of_searched {config : Config} {network : Network}
    (valid : config.validate = .ok ()) (searched : Searched config network) :
    network.Partitioned :=
  (adding_of_searched valid searched).partitioned

variable {network : Network} {id : SegmentId}

/-- The outlines stand in the order of the segments. -/
theorem outlines_getElem? (inside : id < network.segments.size) :
    network.outlines[id]? = some (network.segment id).outline := by
  rw [outlines, List.getElem?_map, Array.getElem?_toList, segment, Array.getD_eq_getD_getElem?,
    Array.getElem?_eq_getElem inside]
  rfl

/-- Every segment has its outline among those of the network. -/
theorem outline_mem_outlines (inside : id < network.segments.size) :
    (network.segment id).outline ∈ network.outlines :=
  List.mem_of_getElem? (outlines_getElem? inside)

/-- A segment has no subnet before the assignment. -/
theorem Partitioned.subnet_eq_none (partitioned : network.Partitioned)
    (inside : id < network.segments.size) : (network.segment id).subnet = none := by
  have outline := partitioned.unbound _ (outline_mem_outlines inside)
  exact outline

/-- A segment consists of interfaces and connections of the network. -/
theorem Partitioned.bounded_segment (partitioned : network.Partitioned)
    (inside : id < network.segments.size) : network.Bounded (network.segment id) := by
  have outline := partitioned.bounded _ (outline_mem_outlines inside)
  exact ⟨outline.interfacesOnce, outline.interfaces, outline.connectionsOnce, outline.connections⟩

/-- Segments are apart in both orders. -/
theorem Apart.symm {left right : Segment} (apart : Apart left right) : Apart right left :=
  ⟨fun _ first second => apart.1 second first, fun _ first second => apart.2 second first⟩

/-- Two segments of a layer of a partitioned network are apart. -/
theorem Partitioned.apart_of_lt (partitioned : network.Partitioned) {other : SegmentId}
    (inside : other < network.segments.size) (below : id < other)
    (layers : (network.segment id).layer = (network.segment other).layer) :
    Apart (network.segment id) (network.segment other) := by
  have first := outlines_getElem? (Nat.lt_trans below inside)
  have second := outlines_getElem? inside
  obtain ⟨firstInside, firstSame⟩ := List.getElem?_eq_some_iff.mp first
  obtain ⟨secondInside, secondSame⟩ := List.getElem?_eq_some_iff.mp second
  have apart := List.pairwise_iff_getElem.mp partitioned.apart id other firstInside secondInside
    below
  rw [firstSame, secondSame] at apart
  exact apart layers

/-- Two segments of one layer share no interface and no connection. -/
theorem Partitioned.apart_segments (partitioned : network.Partitioned) {other : SegmentId}
    (inside : id < network.segments.size) (otherInside : other < network.segments.size)
    (different : id ≠ other)
    (layers : (network.segment id).layer = (network.segment other).layer) :
    Apart (network.segment id) (network.segment other) := by
  rcases Nat.lt_or_gt_of_ne different with below | above
  · exact partitioned.apart_of_lt otherInside below layers
  · exact (partitioned.apart_of_lt inside above layers.symm).symm

/-- Segments consist of objects of the network, and those of one layer are apart. -/
structure Divided (network : Network) : Prop where
  bounded : ∀ id, id < network.segments.size → network.Bounded (network.segment id)
  apart : ∀ id other, id < network.segments.size → other < network.segments.size → id ≠ other →
    (network.segment id).layer = (network.segment other).layer →
      Apart (network.segment id) (network.segment other)

/-- A partitioned network is divided. -/
theorem Partitioned.divided (partitioned : network.Partitioned) : network.Divided where
  bounded _ := partitioned.bounded_segment
  apart _ _ := partitioned.apart_segments

end Network

end TopoPlan
