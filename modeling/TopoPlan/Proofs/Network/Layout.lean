import TopoPlan.Proofs.Network.Readdressing
import TopoPlan.Proofs.Network.WellFormed

/-!
# Layouts of searched networks

The layout of a network is how its objects are joined, in which layers its connections take
part, and which segments they form.  Stages that give values leave it alone.  `Charted` says
that the segments of a layer divide the connections that take part in it; it holds of every
searched network and wherever the layout is the same.
-/

namespace TopoPlan.Network

/-- Objects are joined in the same way, and connections take part in the same layers and
form the same segments. -/
structure SameLayout (before after : Network) : Prop where
  links : SameLinks before after
  standing : SameStanding before after
  layers : memberships.holds before after

/-- The frame of stages that leave the layout alone. -/
def layout : Frame where
  holds := SameLayout
  refl network := ⟨.refl network, standing.refl network, memberships.refl network⟩
  trans first second :=
    ⟨first.links.trans second.links, standing.trans first.standing second.standing,
      memberships.trans first.layers second.layers⟩

/-- Values do not say in which layers connections take part. -/
theorem memberships_valueless : memberships.Valueless where
  parameters network scope change := by
    cases scope with
    | connection id => exact network.connection_updateConnection_field (fun _ => by rfl) id
    | _ => exact memberships.refl network
  subnet network _ _ _ := memberships.refl network
  nodes network _ := memberships.refl network
  attachments network _ := memberships.refl network

/-- Values are no part of the layout. -/
theorem layout_valueless : layout.Valueless where
  parameters network scope change :=
    ⟨(untouched_valueless.parameters network scope change).1.1.sameLinks,
      standing_valueless.parameters network scope change,
      memberships_valueless.parameters network scope change⟩
  subnet network id subnet change :=
    ⟨(untouched_valueless.subnet network id subnet change).1.1.sameLinks,
      standing_valueless.subnet network id subnet change,
      memberships_valueless.subnet network id subnet change⟩
  nodes network change :=
    ⟨(untouched_valueless.nodes network change).1.1.sameLinks,
      standing_valueless.nodes network change, memberships_valueless.nodes network change⟩
  attachments network change :=
    ⟨(untouched_valueless.attachments network change).1.1.sameLinks,
      standing_valueless.attachments network change,
      memberships_valueless.attachments network change⟩

/-- The segments of a layer divide the connections that take part in it, and interfaces are
listed at their nodes. -/
structure Charted (config : Config) (network : Network) : Prop where
  linked : network.Linked
  interfaces : ListedOnce network.interfaces.size (fun id => (network.interface id).node)
    fun id => (network.node id).interfaces
  divided : network.Divided
  participating : ∀ layer ∈ config.layers, ∀ link,
    (∃ id ∈ network.segmentsIn layer.name, link ∈ (network.segment id).connections) ↔
      Segments.Participates network layer link

variable {config : Config} {network before after : Network}

/-- Whether a network is charted depends on its layout alone. -/
theorem Charted.congr (charted : before.Charted config) (same : SameLayout before after) :
    after.Charted config where
  linked := same.links.linked charted.linked
  interfaces :=
    charted.interfaces.congr same.links.interfaceCount same.links.node same.links.ports
  divided := same.standing.divided charted.divided
  participating layer member link := by
    rw [Segments.participates_congr same.links same.layers rfl,
      ← charted.participating layer member link, same.standing.segmentsIn]
    simp only [same.standing.links]

/-- Segments consist of connections that there are. -/
theorem Charted.link_lt (charted : network.Charted config) {layer : String} {id : SegmentId}
    (listed : id ∈ network.segmentsIn layer) {link : ConnectionId}
    (member : link ∈ (network.segment id).connections) : link < network.connections.size := by
  have inside := List.mem_range.mp (List.mem_filter.mp listed).1
  exact (charted.divided.bounded id inside).connections link member

/-- Two segments of one layer with a connection in common are the same. -/
theorem Charted.segment_unique (charted : network.Charted config) {layer : String}
    {left right : SegmentId} (leftListed : left ∈ network.segmentsIn layer)
    (rightListed : right ∈ network.segmentsIn layer) {link : ConnectionId}
    (leftMember : link ∈ (network.segment left).connections)
    (rightMember : link ∈ (network.segment right).connections) : left = right := by
  obtain ⟨leftInside, leftLayer⟩ := List.mem_filter.mp leftListed
  obtain ⟨rightInside, rightLayer⟩ := List.mem_filter.mp rightListed
  by_contra different
  have layers : (network.segment left).layer = (network.segment right).layer :=
    (beq_iff_eq.mp leftLayer).trans (beq_iff_eq.mp rightLayer).symm
  exact (charted.divided.apart left right (List.mem_range.mp leftInside)
    (List.mem_range.mp rightInside) different layers).2 leftMember rightMember

/-- Every searched network is charted. -/
theorem charted_of_searched (valid : config.validate = .ok ())
    (searched : Searched config network) : network.Charted config where
  linked := (consistent_of_searched searched).linked
  interfaces := (consistent_of_searched searched).coherent.interfaces
  divided := (partitioned_of_searched valid searched).divided
  participating layer member link := by
    have adding := adding_of_searched valid searched
    rw [← adding.participating layer (List.mem_map_of_mem member) link]
    constructor
    · rintro ⟨id, listed, own⟩
      obtain ⟨inside, name⟩ := List.mem_filter.mp listed
      exact ⟨_, outline_mem_outlines (List.mem_range.mp inside), beq_iff_eq.mp name, own⟩
    · rintro ⟨segment, listed, name, own⟩
      obtain ⟨found, stored, rfl⟩ := List.mem_map.mp listed
      obtain ⟨id, inside, rfl⟩ := List.mem_iff_getElem.mp stored
      have same : network.segment id = network.segments.toList[id] := by
        rw [segment, Array.getD_eq_getD_getElem?, Array.getElem_toList,
          Array.getElem?_eq_getElem inside, Option.getD_some]
      refine ⟨id, List.mem_filter.mpr ⟨List.mem_range.mpr inside, ?_⟩, ?_⟩
      · rw [same]
        exact beq_iff_eq.mpr name
      · rw [same]
        exact own

end TopoPlan.Network
