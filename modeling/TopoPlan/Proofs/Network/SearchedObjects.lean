import TopoPlan.Proofs.Network.Coherence
import TopoPlan.Proofs.Network.SearchedSegments
import TopoPlan.Proofs.Text.Tables

/-!
# Objects after the search for segments

The search adds segments, and neighbors where interfaces ask for them.  `Consistent`
gathers what is known of the references between all objects then; the main statement
is `consistent_of_searched`.
-/

namespace TopoPlan.Network

/-- Every neighbor belongs to a layer in which its interface asks for neighbors. -/
def Asked (network : Network) : Prop :=
  ∀ id, id < network.neighbors.size → (network.neighbor id).layer ∈
    (network.interface (network.neighbor id).self).neighborLayers

/-- References between objects agree with each other. -/
structure Consistent (network : Network) : Prop where
  linked : network.Linked
  coherent : network.Coherent
  asked : network.Asked
  bounded : ∀ segment ∈ network.outlines, network.Bounded segment

section Neighbors

variable {network : Network} {added : Neighbor}

/-- The new neighbor is the last of the arena. -/
theorem neighbor_addNeighbor (network : Network) (added : Neighbor) (id : NeighborId) :
    (network.addNeighbor added).neighbor id =
      if id = network.neighbors.size then added else network.neighbor id :=
  getD_push network.neighbors added default id

theorem size_neighbors_addNeighbor (network : Network) (added : Neighbor) :
    (network.addNeighbor added).neighbors.size = network.neighbors.size + 1 :=
  Array.size_push added

/-- A field of interfaces that is not the list of neighbors. -/
theorem interface_addNeighbor_field {β : Type} (field : Interface → β)
    (keeps : ∀ interface neighbors, field { interface with neighbors } = field interface)
    (added : Neighbor) (id : InterfaceId) :
    field ((network.addNeighbor added).interface id) = field (network.interface id) := by
  unfold addNeighbor
  rw [interface_updateInterface_field _ fun interface => keeps interface _]
  rfl

/-- A new neighbor is entered at its interface, under its layer. -/
theorem neighborsAt_addNeighbor (inside : added.self < network.interfaces.size)
    (place : InterfaceId × String) :
    (network.addNeighbor added).neighborsAt place =
      if place = (added.self, added.layer) then
        network.neighborsAt place ++ [network.neighbors.size]
      else network.neighborsAt place := by
  obtain ⟨port, layer⟩ := place
  unfold neighborsAt addNeighbor
  rw [interface_updateInterface]
  by_cases here : added.self = port
  · subst here
    rw [if_pos ⟨rfl, inside⟩, Table.getD_push]
    simp only [Prod.mk.injEq, true_and]
    rfl
  · rw [if_neg fun found => here found.1, if_neg fun same => here (congrArg Prod.fst same).symm]
    rfl

/-- A neighbor at an interface of the network keeps it coherent. -/
theorem Coherent.addNeighbor (coherent : network.Coherent)
    (inside : added.self < network.interfaces.size) : (network.addNeighbor added).Coherent where
  interfaces := by
    have same : SameLinks network (network.addNeighbor added) :=
      (Segments.outlined_addNeighbor network added).1
    exact coherent.interfaces.congr same.interfaceCount same.node same.ports
  neighbors := by
    rw [size_neighbors_addNeighbor]
    refine coherent.neighbors.push (fun id other => ?_) fun place => ?_
    · rw [neighbor_addNeighbor, if_neg other]
    · rw [neighbor_addNeighbor, if_pos rfl]
      exact neighborsAt_addNeighbor inside place
  members := by
    refine coherent.members.congr rfl (fun _ => rfl) fun scope => ?_
    cases scope with
    | interface id => exact interface_addNeighbor_field Interface.members (fun _ _ => rfl) added id
    | _ => rfl
  groups := coherent.groups

/-- A neighbor in a layer that its interface asks for may be added. -/
theorem Asked.addNeighbor (asked : network.Asked)
    (layer : added.layer ∈ (network.interface added.self).neighborLayers) :
    (network.addNeighbor added).Asked := by
  intro id below
  rw [size_neighbors_addNeighbor] at below
  rw [interface_addNeighbor_field Interface.neighborLayers fun _ _ => rfl, neighbor_addNeighbor]
  split
  case isTrue => exact layer
  case isFalse other => exact asked id (Nat.lt_of_le_of_ne (Nat.lt_succ_iff.mp below) other)

end Neighbors

end TopoPlan.Network

namespace TopoPlan.Segments

open Network Stage

variable {config : Config} {before after : Network}

/-- The neighbors in a segment are the pairs of its interfaces of which the first one asks
for neighbors. -/
theorem mem_neighborsIn {network : Network} {layer : String} {interfaces : List InterfaceId}
    {neighbor : Neighbor} :
    neighbor ∈ neighborsIn network layer interfaces ↔
      neighbor = { self := neighbor.self, peer := neighbor.peer, layer } ∧
        neighbor.self ∈ interfaces ∧ neighbor.peer ∈ interfaces ∧
        neighbor.self ≠ neighbor.peer ∧
        layer ∈ (network.interface neighbor.self).neighborLayers := by
  unfold neighborsIn
  simp only [List.mem_flatMap, List.mem_map, List.mem_filter, Std.ExtTreeSet.contains_iff_mem,
    bne_iff_ne]
  constructor
  · rintro ⟨self, ⟨member, asks⟩, peer, ⟨other, different⟩, rfl⟩
    exact ⟨rfl, member, other, different.symm, asks⟩
  · rintro ⟨same, member, other, different, asks⟩
    exact ⟨neighbor.self, ⟨member, asks⟩, neighbor.peer, ⟨other, different.symm⟩, same.symm⟩

/-- Objects are in the lists of their owners, and neighbors in layers that ask. -/
def recorded : Frame :=
  .ofInvariant fun network => network.Coherent ∧ network.Asked

/-- Adding neighbors of interfaces that there are and that ask for them. -/
theorem recorded_foldl_addNeighbor {network : Network} {neighbors : List Neighbor}
    (asks : ∀ neighbor ∈ neighbors, neighbor.self < network.interfaces.size ∧
      neighbor.layer ∈ (network.interface neighbor.self).neighborLayers) :
    recorded.holds network (neighbors.foldl addNeighbor network) := by
  induction neighbors generalizing network with
  | nil => exact recorded.refl network
  | cons neighbor rest inductionHypothesis =>
    obtain ⟨⟨inside, layer⟩, others⟩ := List.forall_mem_cons.mp asks
    refine recorded.trans ?_ (inductionHypothesis fun other member => ?_)
    · rintro ⟨coherent, asked⟩
      exact ⟨coherent.addNeighbor inside, asked.addNeighbor layer⟩
    · rw [interface_addNeighbor_field Interface.neighborLayers fun _ _ => rfl]
      have size : (network.addNeighbor neighbor).interfaces.size = network.interfaces.size :=
        Array.size_modify
      rw [size]
      exact others other member

/-- A class of a segment leaves the lists of the objects and the neighbors as they are. -/
theorem applyClass_recorded (network : Network) (id : SegmentId) (definition : SegmentClass) :
    recorded.holds network (applyClass network id definition) := by
  rintro ⟨coherent, asked⟩
  unfold applyClass
  dsimp only
  split
  · exact ⟨coherent, asked⟩
  · have updated : Coherent (network.updateSegment id fun found =>
        { found with
          classes := found.classes ++ [definition.name]
          parameters := definition.params.foldl Parameters.flag found.parameters }) :=
      { coherent with }
    refine ⟨updated.enter _ _ _, ?_⟩
    unfold Network.enter
    split <;> exact asked

/-- Adding a segment of interfaces that there are. -/
theorem addSegment_recorded {segment : Segment}
    (inside : ∀ port ∈ segment.interfaces, port < before.interfaces.size) :
    recorded.holds before ((addSegment config segment).outcome before).2 := by
  unfold addSegment
  rw [outcome_get_bind]
  dsimp only
  rw [outcome_modify_bind, outcome_modify_bind]
  let added := before.addSegment segment
  have start : recorded.holds before added := fun ⟨coherent, asked⟩ => ⟨{ coherent with }, asked⟩
  have joined : recorded.holds added
      ((neighborsIn added segment.layer segment.interfaces).foldl addNeighbor added) := by
    refine recorded_foldl_addNeighbor fun neighbor listed => ?_
    obtain ⟨same, member, _, _, asks⟩ := mem_neighborsIn.mp listed
    have layer : neighbor.layer = segment.layer := congrArg Neighbor.layer same
    exact ⟨inside neighbor.self member, layer ▸ asks⟩
  have classified : Within recorded (applyClasses config before.segments.size) :=
    within_bind within_get fun _ => within_forM fun _ _ =>
      within_bind (within_require _ _) fun definition =>
        within_modify fun current => applyClass_recorded current _ definition
  exact recorded.trans (recorded.trans start joined) (classified _)

/-- Adding segments of interfaces that there are. -/
theorem forM_addSegment_recorded {segments : List Segment}
    (inside : ∀ segment ∈ segments, ∀ port ∈ segment.interfaces, port < before.interfaces.size)
    (run : (segments.forM (addSegment config)).outcome before = (.ok (), after)) :
    recorded.holds before after := by
  induction segments generalizing before with
  | nil =>
    cases run
    exact recorded.refl _
  | cons segment rest inductionHypothesis =>
    obtain ⟨middle, first, others⟩ := outcome_forM_cons_eq_ok.mp run
    obtain ⟨firstInside, restInside⟩ := List.forall_mem_cons.mp inside
    have added : recorded.holds before ((addSegment config segment).outcome before).2 :=
      addSegment_recorded firstInside
    rw [first] at added
    refine recorded.trans added (inductionHypothesis ?_ others)
    rw [(addSegment_eq_ok first).1.interfaceCount]
    exact restInside

/-- Adding the segments of a layer. -/
theorem consistent_addLayer {layer : Layer} (consistent : before.Consistent)
    (run : (addLayer config layer).outcome before = (.ok (), after)) : after.Consistent := by
  rw [addLayer, outcome_get_bind] at run
  have domains : BroadcastDomains before layer (ofLayer before layer) :=
    domains_ofLayer consistent.linked
  have bounded := domains.bounded consistent.linked
  obtain ⟨same, outlines⟩ := forM_addSegment_eq_ok run
  obtain ⟨coherent, asked⟩ := forM_addSegment_recorded
    (fun segment listed => (bounded segment listed).interfaces) run
    ⟨consistent.coherent, consistent.asked⟩
  refine ⟨same.linked consistent.linked, coherent, asked, ?_⟩
  rw [outlines]
  refine List.forall_mem_append.mpr ⟨fun segment old => ?_, List.forall_mem_map.mpr ?_⟩
  · exact same.bounded (consistent.bounded segment old)
  · intro segment own
    rw [(new_of_mem_ofLayer own).2.2.1]
    exact same.bounded (bounded segment own)

end TopoPlan.Segments

namespace TopoPlan.Network

/-- References agree in every searched network. -/
theorem consistent_of_searched {config : Config} {network : Network}
    (searched : Searched config network) : network.Consistent := by
  obtain ⟨topology, extra, built, resolved, made, run, found⟩ := searched
  have assembled := assembled_of_resolve made run
  have start : resolved.Consistent := by
    refine ⟨assembled.linked, assembled.coherent, fun id below => ?_, ?_⟩
    · rw [assembled.unsearched] at below
      cases below
    · rw [outlines, assembled.unsegmented]
      exact List.forall_mem_nil _
  clear made run assembled
  unfold Segments.addAll at found
  generalize config.layers = layers at found
  induction layers generalizing resolved with
  | nil =>
    cases found
    exact start
  | cons layer rest inductionHypothesis =>
    obtain ⟨middle, first, others⟩ := Stage.outcome_forM_cons_eq_ok.mp found
    exact inductionHypothesis middle (Segments.consistent_addLayer start first) others

end TopoPlan.Network
