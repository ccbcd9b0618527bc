import TopoPlan.Proofs.Network.SearchedObjects

/-!
# Neighbors

The search for segments makes a neighbor for each pair of different interfaces of a
segment of which the first one asks for neighbors in the layer of the segment, and no
other neighbor.  `neighborsArePeers_of_searched` is the main statement; it rests on
`Paired`, which lists the neighbors in the order in which they are made.
-/

namespace TopoPlan

namespace Network

/-- The neighbors are those that the interfaces of the segments ask for, segment by
segment. -/
def Paired (network : Network) : Prop :=
  network.neighbors.toList = network.outlines.flatMap fun segment =>
    Segments.neighborsIn network segment.layer segment.interfaces

/-- The frame of stages that leave alone in which layers interfaces ask for neighbors. -/
def wishes : Frame where
  holds before after :=
    ∀ id, (after.interface id).neighborLayers = (before.interface id).neighborLayers
  refl _ _ := rfl
  trans first second id := (second id).trans (first id)

/-- The frame of stages that leave the neighbors alone, and who asks for some. -/
def acquaintances : Frame where
  holds before after := after.neighbors = before.neighbors ∧ wishes.holds before after
  refl network := ⟨rfl, wishes.refl network⟩
  trans first second := ⟨second.1.trans first.1, wishes.trans first.2 second.2⟩

end Network

namespace Segments

open Network Stage

variable {config : Config} {before after : Network}

/-- A neighbor leaves what interfaces ask for as it is. -/
theorem wishes_addNeighbor (network : Network) (neighbor : Neighbor) :
    wishes.holds network (network.addNeighbor neighbor) :=
  interface_addNeighbor_field Interface.neighborLayers (fun _ _ => rfl) neighbor

/-- Neighbors are appended in the order in which they are given. -/
theorem neighbors_foldl_addNeighbor (added : List Neighbor) (network : Network) :
    (added.foldl addNeighbor network).neighbors.toList = network.neighbors.toList ++ added := by
  induction added generalizing network with
  | nil => exact (List.append_nil _).symm
  | cons neighbor rest inductionHypothesis =>
    have pushed : (network.addNeighbor neighbor).neighbors = network.neighbors.push neighbor := rfl
    rw [List.foldl_cons, inductionHypothesis, pushed, Array.toList_push, List.append_assoc,
      List.singleton_append]

/-- A class of a segment leaves the neighbors as they are. -/
theorem acquaintances_applyClass (network : Network) (id : SegmentId) (definition : SegmentClass) :
    acquaintances.holds network (applyClass network id definition) := by
  unfold applyClass
  dsimp only
  split
  · exact acquaintances.refl network
  · unfold Network.enter
    split <;> exact acquaintances.refl network

/-- What a segment asks for depends on the wishes of its interfaces alone. -/
theorem neighborsIn_congr (same : wishes.holds before after) (layer : String)
    (interfaces : List InterfaceId) :
    neighborsIn after layer interfaces = neighborsIn before layer interfaces := by
  unfold neighborsIn
  simp only [same _]

/-- Interfaces that are listed once make each pair once. -/
theorem nodup_neighborsIn {network : Network} {layer : String} {interfaces : List InterfaceId}
    (once : interfaces.Nodup) : (neighborsIn network layer interfaces).Nodup := by
  refine List.nodup_flatMap.mpr ⟨fun self _ => ?_, ?_⟩
  · exact (once.filter _).map fun peer other same => congrArg Neighbor.peer same
  · refine (once.filter _).imp fun {self other} different neighbor first second => ?_
    obtain ⟨_, _, rfl⟩ := List.mem_map.mp first
    obtain ⟨_, _, same⟩ := List.mem_map.mp second
    exact different (congrArg Neighbor.self same).symm

/-- Adding a segment adds the neighbors in it. -/
theorem addSegment_neighbors {segment : Segment}
    (run : (addSegment config segment).outcome before = (.ok (), after)) :
    wishes.holds before after ∧ after.neighbors.toList =
      before.neighbors.toList ++ neighborsIn before segment.layer segment.interfaces := by
  unfold addSegment at run
  rw [outcome_get_bind] at run
  dsimp only at run
  rw [outcome_modify_bind, outcome_modify_bind] at run
  let added := before.addSegment segment
  let joined := (neighborsIn added segment.layer segment.interfaces).foldl addNeighbor added
  have entered : wishes.holds added joined :=
    wishes.foldl (fun current => current) wishes_addNeighbor added _
  obtain ⟨kept, same⟩ : acquaintances.holds joined after :=
    (applyClasses_within fun network => acquaintances_applyClass network _).holds run
  have start : wishes.holds before added := wishes.refl before
  refine ⟨wishes.trans start (wishes.trans entered same), ?_⟩
  rw [kept, neighbors_foldl_addNeighbor, neighborsIn_congr start]
  rfl

/-- Adding a segment keeps the neighbors those that the interfaces ask for. -/
theorem paired_addSegment {segment : Segment} (paired : before.Paired)
    (run : (addSegment config segment).outcome before = (.ok (), after)) : after.Paired := by
  obtain ⟨same, neighbors⟩ := addSegment_neighbors run
  unfold Paired at paired ⊢
  rw [neighbors, paired, (addSegment_eq_ok run).2, List.flatMap_append, List.flatMap_singleton]
  simp only [neighborsIn_congr same]
  rfl

/-- Adding the segments of a layer does as well. -/
theorem paired_addLayer {layer : Layer} (paired : before.Paired)
    (run : (addLayer config layer).outcome before = (.ok (), after)) : after.Paired := by
  rw [addLayer, outcome_get_bind] at run
  exact outcome_forM_induction Paired (fun _ _ _ _ first paired => paired_addSegment paired first)
    run paired

end Segments

namespace Network

open Segments Stage

variable {config : Config} {network : Network}

/-- The neighbors of a searched network are those that its interfaces ask for. -/
theorem paired_of_searched (searched : Searched config network) : network.Paired := by
  obtain ⟨topology, extra, built, resolved, made, run, found⟩ := searched
  have assembled := assembled_of_resolve made run
  have start : resolved.Paired := by
    rw [Paired, assembled.unsearched, outlines, assembled.unsegmented]
    rfl
  exact outcome_forM_induction Paired (fun _ _ _ _ first paired => paired_addLayer paired first)
    found start

/-- Segments of one layer share no interface, and neighbors of different layers are
different. -/
theorem nodup_neighbors (paired : network.Paired) (partitioned : network.Partitioned) :
    network.neighbors.toList.Nodup := by
  rw [paired]
  refine List.nodup_flatMap.mpr ⟨fun segment listed => ?_, ?_⟩
  · exact nodup_neighborsIn (partitioned.bounded segment listed).interfacesOnce
  · refine partitioned.apart.imp fun {left right} apart neighbor first second => ?_
    obtain ⟨leftLayer, leftMember, _⟩ := mem_neighborsIn.mp first
    obtain ⟨rightLayer, rightMember, _⟩ := mem_neighborsIn.mp second
    have layers : left.layer = right.layer :=
      congrArg Neighbor.layer (leftLayer.symm.trans rightLayer)
    exact (apart layers).1 leftMember rightMember

/-- Two different interfaces of one segment of a layer. -/
def Peers (network : Network) (layer : Layer) (self peer : InterfaceId) : Prop :=
  self ≠ peer ∧ ∃ id ∈ network.segmentsIn layer.name,
    self ∈ (network.segment id).interfaces ∧ peer ∈ (network.segment id).interfaces

/-- Whether an interface asks for neighbors in a layer. -/
def Asks (network : Network) (layer : Layer) (id : InterfaceId) : Prop :=
  layer.name ∈ (network.interface id).neighborLayers

/-- A neighbor that one interface has in another one in a layer. -/
def IsNeighbor (network : Network) (layer : Layer) (self peer : InterfaceId)
    (id : NeighborId) : Prop :=
  id < network.neighbors.size ∧ (network.neighbor id).self = self ∧
    (network.neighbor id).peer = peer ∧ (network.neighbor id).layer = layer.name

theorem neighbor_eq_getElem {id : NeighborId} (inside : id < network.neighbors.size) :
    network.neighbor id = network.neighbors[id] :=
  (Array.getElem_eq_getD default).symm

theorem neighbor_mem_neighbors {id : NeighborId} (inside : id < network.neighbors.size) :
    network.neighbor id ∈ network.neighbors.toList := by
  rw [neighbor_eq_getElem inside]
  exact Array.getElem_mem_toList inside

/-- What the arena lists has a handle. -/
theorem exists_neighbor_of_mem {added : Neighbor} (listed : added ∈ network.neighbors.toList) :
    ∃ id, id < network.neighbors.size ∧ network.neighbor id = added := by
  obtain ⟨id, inside, same⟩ := List.mem_iff_getElem.mp listed
  rw [Array.length_toList] at inside
  exact ⟨id, inside, (neighbor_eq_getElem inside).trans same⟩

/-- Neighbors that are listed once are told apart by their contents. -/
theorem eq_of_neighbor_eq (once : network.neighbors.toList.Nodup) {id other : NeighborId}
    (inside : id < network.neighbors.size) (otherInside : other < network.neighbors.size)
    (same : network.neighbor id = network.neighbor other) : id = other := by
  rw [neighbor_eq_getElem inside, neighbor_eq_getElem otherInside] at same
  have same : network.neighbors.toList[id] = network.neighbors.toList[other] := same
  exact (List.Nodup.getElem_inj_iff once).mp same

/-- Outlines of a layer have the interfaces of its segments. -/
theorem exists_outline_iff (layer : Layer) (holds : List InterfaceId → Prop) :
    (∃ segment ∈ network.outlines, segment.layer = layer.name ∧ holds segment.interfaces) ↔
      ∃ id ∈ network.segmentsIn layer.name, holds (network.segment id).interfaces := by
  constructor
  · rintro ⟨segment, listed, own, interfaces⟩
    obtain ⟨id, inside, same⟩ := List.mem_iff_getElem.mp listed
    have below : id < network.segments.size := by simpa [outlines] using inside
    have outline : (network.segment id).outline = segment := by
      have found := outlines_getElem? below
      rw [List.getElem?_eq_getElem inside, same] at found
      exact (Option.some.inj found).symm
    subst outline
    exact ⟨id, List.mem_filter.mpr ⟨List.mem_range.mpr below, beq_iff_eq.mpr own⟩, interfaces⟩
  · rintro ⟨id, listed, interfaces⟩
    obtain ⟨inside, own⟩ := List.mem_filter.mp listed
    exact ⟨_, outline_mem_outlines (List.mem_range.mp inside), beq_iff_eq.mp own, interfaces⟩

/-- A neighbor of a layer is there exactly for peers of which the first one asks. -/
theorem Paired.mem_neighbors_iff (paired : network.Paired) {layer : Layer} {added : Neighbor}
    (own : added.layer = layer.name) :
    added ∈ network.neighbors.toList ↔
      added = { self := added.self, peer := added.peer, layer := layer.name } ∧
        network.Asks layer added.self ∧ network.Peers layer added.self added.peer := by
  have segments := network.exists_outline_iff layer fun interfaces =>
    added.self ∈ interfaces ∧ added.peer ∈ interfaces
  rw [paired, List.mem_flatMap, Peers, ← segments]
  simp only [mem_neighborsIn]
  constructor
  · rintro ⟨segment, listed, same, self, peer, different, asks⟩
    have layers : segment.layer = layer.name := (congrArg Neighbor.layer same).symm.trans own
    rw [layers] at same asks
    exact ⟨same, asks, different, segment, listed, layers, self, peer⟩
  · rintro ⟨same, asks, different, segment, listed, layers, self, peer⟩
    refine ⟨segment, listed, ?_, self, peer, different, ?_⟩ <;> rw [layers]
    · exact same
    · exact asks

/-- The neighbors of a layer are the peers that interfaces ask for: there is one for each,
there are no others, interfaces list the ones that they have, and a peer that asks as well has
the interface in turn. -/
structure NeighborsArePeers (network : Network) (layer : Layer) : Prop where
  once : ∀ self peer, network.Asks layer self → network.Peers layer self peer →
    ∃! id, network.IsNeighbor layer self peer id
  only : ∀ self peer id, network.IsNeighbor layer self peer id →
    network.Asks layer self ∧ network.Peers layer self peer
  listedOnce : ∀ self, (network.neighborsAt (self, layer.name)).Nodup
  listed : ∀ self id, id ∈ network.neighborsAt (self, layer.name) ↔
    ∃ peer, network.IsNeighbor layer self peer id
  returned : ∀ self peer id, network.IsNeighbor layer self peer id → network.Asks layer peer →
    ∃! back, network.IsNeighbor layer peer self back

/-- Peers are peers of each other. -/
theorem Peers.symm {layer : Layer} {self peer : InterfaceId}
    (peers : network.Peers layer self peer) : network.Peers layer peer self := by
  obtain ⟨different, id, listed, member, other⟩ := peers
  exact ⟨different.symm, id, listed, other, member⟩

/-- In a searched network the neighbors of a layer are the peers that interfaces ask for. -/
theorem neighborsArePeers_of_searched (valid : config.validate = .ok ())
    (searched : Searched config network) (layer : Layer) : network.NeighborsArePeers layer := by
  have paired := paired_of_searched searched
  have distinct := nodup_neighbors paired (partitioned_of_searched valid searched)
  have coherent := (consistent_of_searched searched).coherent.neighbors
  have only : ∀ self peer id, network.IsNeighbor layer self peer id →
      network.neighbor id = { self, peer, layer := layer.name } ∧
        network.Asks layer self ∧ network.Peers layer self peer := by
    rintro self peer id ⟨inside, rfl, rfl, own⟩
    exact (paired.mem_neighbors_iff own).mp (neighbor_mem_neighbors inside)
  have once : ∀ self peer, network.Asks layer self → network.Peers layer self peer →
      ∃! id, network.IsNeighbor layer self peer id := by
    intro self peer asks peers
    have listed : { self, peer, layer := layer.name } ∈ network.neighbors.toList :=
      (paired.mem_neighbors_iff rfl).mpr ⟨rfl, asks, peers⟩
    obtain ⟨id, inside, same⟩ := exists_neighbor_of_mem listed
    have found : network.IsNeighbor layer self peer id := by
      rw [IsNeighbor, same]
      exact ⟨inside, rfl, rfl, rfl⟩
    refine ⟨id, found, fun other isNeighbor => ?_⟩
    have alike := (only self peer other isNeighbor).1.trans same.symm
    exact eq_of_neighbor_eq distinct isNeighbor.1 inside alike
  refine
    { once
      only := fun self peer id isNeighbor => (only self peer id isNeighbor).2
      listedOnce := fun self => coherent.nodup _
      listed := fun self id => ?_
      returned := fun self peer id isNeighbor asks =>
        once peer self asks (only self peer id isNeighbor).2.2.symm }
  rw [coherent.mem_iff, Prod.mk.injEq]
  constructor
  · rintro ⟨inside, rfl, own⟩
    exact ⟨_, inside, rfl, rfl, own⟩
  · rintro ⟨peer, inside, self, _, own⟩
    exact ⟨inside, self, own⟩

end Network

namespace Lobby

open Network

/-- A layer with a policy for the interfaces of hosts. -/
def layer : Layer where
  name := "ip"
  connectsByDefault := true
  policies := [{ name := "lan", range := "10.0.0.0/16", subnetLength := 24 }]

/-- Interfaces of one class ask for neighbors. -/
def config : Config where
  name := "lobby"
  layers := [layer]
  nodeClasses := [{ name := "host", interfacePolicies := ["lan"] }]
  interfaceClasses := [{ name := "curious", neighbors := [{ layer := "ip" }] }, { name := "shy" }]

/-- Three hosts at a switch, which bridges; two of them ask for neighbors. -/
def topology : Topology where
  nodes := [{ name := "a", labels := ["host"] }, { name := "b", labels := ["host"] },
    { name := "c", labels := ["host"] }, { name := "s" }]
  edges := [{ source := "a", target := "s", sourceLabels := ["curious"] },
    { source := "b", target := "s", sourceLabels := ["shy"] },
    { source := "c", target := "s", sourceLabels := ["curious"] }]

/-- The network of the topology. -/
def built : Network := (ofTopology config topology).toOption.getD {}

/-- The network after resolution. -/
def resolved : Network := ((resolve config {}).outcome built).2

/-- The network with its segments. -/
def searched : Network := ((Segments.addAll config).outcome resolved).2

/-- Both hosts that ask have the other two as neighbors, and the third host has none. -/
theorem neighborsArePeers_of_switch :
    config.validate = .ok () ∧ Searched config searched ∧
      searched.NeighborsArePeers layer ∧
      searched.neighbors.toList.map (fun neighbor => (neighbor.self, neighbor.peer)) =
        [(0, 4), (0, 2), (4, 0), (4, 2)] := by
  have valid : config.validate = .ok () := by decide +kernel
  have found : Searched config searched :=
    ⟨topology, {}, built, resolved, Outcome.eq_ok_of_isOk {} (by decide +kernel),
      Stage.outcome_eq_ok (by decide +kernel), Stage.outcome_eq_ok (by decide +kernel)⟩
  exact ⟨valid, found, neighborsArePeers_of_searched valid found layer, by decide +kernel⟩

end Lobby

end TopoPlan
