import TopoPlan.Proofs.Network.SearchedObjects

/-!
# Ports of searched segments

A segment of a searched network has connections, and its interfaces are at connections.
Management interfaces have no connection, so they are in no segment: `Anchored` says so,
and `anchored_of_searched` is the main statement.
-/

namespace TopoPlan

namespace Network

open Stage

variable {network : Network}

/-- A segment has a connection, and so has each of its interfaces. -/
def Wired (network : Network) (segment : Segment) : Prop :=
  segment.connections ≠ [] ∧
    ∀ port ∈ segment.interfaces, (network.interface port).connection.isSome = true

/-- Segments have connections, and no management interfaces. -/
structure Anchored (network : Network) : Prop where
  connected : ∀ id, id < network.segments.size → (network.segment id).connections ≠ []
  ordinary : ∀ id, id < network.segments.size → ∀ port ∈ (network.segment id).interfaces,
    (network.interface port).isManagement = false

/-- The frame of stages that leave alone which connection an interface has and whether it
is a management interface. -/
def roles : Frame where
  holds before after := ∀ id,
    (after.interface id).isManagement = (before.interface id).isManagement ∧
      (after.interface id).connection = (before.interface id).connection
  refl _ _ := ⟨rfl, rfl⟩
  trans first second id :=
    ⟨(second id).1.trans (first id).1, (second id).2.trans (first id).2⟩

/-- Management interfaces have no connection. -/
def Detached (network : Network) : Prop :=
  ∀ id, (network.interface id).isManagement = true → (network.interface id).connection = none

/-- Whether management interfaces are detached depends on the roles alone. -/
theorem Detached.congr {before after : Network} (detached : before.Detached)
    (same : roles.holds before after) : after.Detached := by
  intro id management
  rw [(same id).1] at management
  exact (same id).2.trans (detached id management)

/-- A change of an interface that keeps its role keeps those of the network. -/
theorem roles_updateInterface (network : Network) (id : InterfaceId)
    {change : Interface → Interface}
    (management : ∀ interface, (change interface).isManagement = interface.isManagement)
    (connection : ∀ interface, (change interface).connection = interface.connection) :
    roles.holds network (network.updateInterface id change) := fun other =>
  ⟨network.interface_updateInterface_field management id other,
    network.interface_updateInterface_field connection id other⟩

/-- An entry in the index of classes leaves the roles as they are. -/
theorem roles_enter (network : Network) (kind : ClassKind) (className : String) (scope : Scope) :
    roles.holds network (network.enter kind className scope) := by
  unfold enter
  split <;> exact roles.refl network

/-- Classes and names leave roles alone. -/
theorem roles_tolerant : roles.Tolerant where
  node network _ _ _ := roles.refl network
  interface network id _ keeps := network.roles_updateInterface id
    (fun interface => congrArg (·.2.2.2.2.2.2) (keeps interface))
    fun interface => congrArg (·.2.1) (keeps interface)
  connection network _ _ _ := roles.refl network
  group network _ _ _ := roles.refl network
  enter := roles_enter
  parameters network _ := roles.refl network

/-- A member leaves the roles as they are. -/
theorem roles_addMember (network : Network) (member : Member) :
    roles.holds network (network.addMember member) := fun id =>
  ⟨interface_addMember_field Interface.isManagement (fun _ _ => rfl) member id,
    interface_addMember_field Interface.connection (fun _ _ => rfl) member id⟩

/-- There is no management interface in the network of a topology. -/
theorem isManagement_of_ofTopology {config : Config} {topology : Topology} {built : Network}
    (made : ofTopology config topology = .ok built) (id : InterfaceId) :
    (built.interface id).isManagement = false := by
  let unmanaged (current : Network) : Prop := ∀ id, (current.interface id).isManagement = false
  suffices all : unmanaged built from all id
  refine ofTopology_induction made (fun _ _ => rfl) ?_ ?_
  · intro network edge source target _ _ unmanaged id
    refine (interface_addConnection_field _ Interface.isManagement (fun _ _ => rfl) _ id).trans ?_
    have target : (interfaceOf target edge.targetName edge.targetLabels).isManagement =
        (default : Interface).isManagement := rfl
    have source : (interfaceOf source edge.sourceName edge.sourceLabels).isManagement =
        (default : Interface).isManagement := rfl
    rw [interface_addInterface_field Interface.isManagement target,
      interface_addInterface_field Interface.isManagement source]
    exact unmanaged id
  · intro network given nodes _ unmanaged id
    unfold addGroup
    dsimp only
    rw [foldl_updateNode]
    exact unmanaged id

/-- Resolution leaves management interfaces without connection. -/
theorem detached_durable {count : Nat} :
    Durable count fun network => network.Prepared count ∧ network.Detached where
  tolerant := by
    have detached : (Frame.ofInvariant Detached).Tolerant :=
      roles_tolerant.mono fun _ _ same detached => detached.congr same
    exact Frame.Tolerant.and prepared_durable.tolerant detached
  nodeCount _ holds := holds.1.nodeCount
  management network node name className inside holds := by
    refine ⟨prepared_durable.management network node name className inside holds.1, ?_⟩
    intro id management
    change ((network.addInterface (Management.interfaceOf network node name className)).interface
      id).isManagement = true at management
    change ((network.addInterface (Management.interfaceOf network node name className)).interface
      id).connection = none
    rw [interface_addInterface] at management ⊢
    split
    case isTrue => rfl
    case isFalse other =>
      rw [if_neg other] at management
      exact holds.2 id management
  member network member inside entered holds :=
    ⟨prepared_durable.member network member inside entered holds.1,
      holds.2.congr (network.roles_addMember member)⟩

/-- Whether a segment is wired depends on the roles alone. -/
theorem Wired.congr {before after : Network} {segment : Segment} (wired : before.Wired segment)
    (same : roles.holds before after) : after.Wired segment := by
  refine ⟨wired.1, fun port listed => ?_⟩
  rw [(same port).2]
  exact wired.2 port listed

end Network

namespace Segments

open Network Stage

variable {config : Config} {before after : Network}

/-- Broadcast domains consist of connections and interfaces at them. -/
theorem BroadcastDomains.wired {network : Network} {layer : Layer} {segments : List Segment}
    (domains : BroadcastDomains network layer segments) (linked : network.Linked) :
    ∀ segment ∈ segments, network.Wired segment := by
  intro segment listed
  obtain ⟨first, rest, connections, _⟩ := domains.smallestFirst segment listed
  refine ⟨connections ▸ List.cons_ne_nil first rest, fun port member => ?_⟩
  obtain ⟨_, id, connection, isEnd⟩ := ((domains.interfaces segment listed).2 port).mp member
  have inside := ((domains.participating id).mp
    (List.mem_flatMap.mpr ⟨segment, listed, connection⟩)).1
  rw [(linked.ends id inside port isEnd).2]
  rfl

/-- The search in one layer leaves roles alone. -/
theorem addLayer_keeps_roles (layer : Layer) : Within roles (addLayer config layer) := by
  refine addLayer_within (fun network _ => roles.refl network)
    (fun network neighbor id => ?_) (fun network id definition => ?_) layer
  · exact ⟨interface_addNeighbor_field Interface.isManagement (fun _ _ => rfl) neighbor id,
      interface_addNeighbor_field Interface.connection (fun _ _ => rfl) neighbor id⟩
  · unfold applyClass
    dsimp only
    split
    · exact roles.refl network
    · exact roles_enter _ _ _ _

section Outlines

variable {frame : Frame} (good : Network → Segment → Prop)
  (within : ∀ layer, Within frame (addLayer config layer))
  (keeps : ∀ current next, frame.holds current next → ∀ segment, good current segment →
    good next segment)
  (finds : ∀ current layer, current.Linked → ∀ segment ∈ ofLayer current layer,
    good current segment)

include within keeps finds

/-- What holds of the segments that are found, and is kept by the search in further layers,
holds of all segments that a search adds. -/
theorem outlines_of_addAll (run : (addAll config).outcome before = (.ok (), after))
    (linked : before.Linked) (start : ∀ segment ∈ before.outlines, good before segment) :
    ∀ segment ∈ after.outlines, good after segment := by
  let steady (current : Network) : Prop :=
    current.Linked ∧ ∀ segment ∈ current.outlines, good current segment
  refine (outcome_forM_induction steady (fun layer _ current next step holds => ?_) run
    ⟨linked, start⟩).2
  obtain ⟨linked, known⟩ := holds
  have kept := keeps current next ((within layer).holds step)
  rw [addLayer, outcome_get_bind] at step
  obtain ⟨same, outlines⟩ := forM_addSegment_eq_ok step
  refine ⟨same.linked linked, fun segment listed => kept segment ?_⟩
  rw [outlines] at listed
  rcases List.mem_append.mp listed with old | added
  · exact known segment old
  · obtain ⟨found, member, rfl⟩ := List.mem_map.mp added
    rw [(new_of_mem_ofLayer member).2.2.1]
    exact finds current layer linked found member

/-- What holds of the segments that are found, and is kept by the search in further layers,
holds of all segments of a searched network. -/
theorem outlines_of_searched {network : Network} (searched : Searched config network) :
    ∀ segment ∈ network.outlines, good network segment := by
  obtain ⟨topology, extra, built, resolved, made, run, found⟩ := searched
  have prepared := prepared_of_resolve made run
  refine outlines_of_addAll good within keeps finds found prepared.linked ?_
  rw [prepared.outlines_eq_nil]
  exact List.forall_mem_nil _

end Outlines

end Segments

namespace Network

/-- Management interfaces of a searched network have no connection. -/
theorem detached_of_searched {config : Config} {network : Network}
    (searched : Searched config network) : network.Detached := by
  obtain ⟨topology, extra, built, resolved, made, run, found⟩ := searched
  have unmanaged : built.Detached := fun id management =>
    nomatch (isManagement_of_ofTopology made id).symm.trans management
  have detached := (detached_durable.of_resolve run ⟨prepared_of_ofTopology made, unmanaged⟩).2
  have roles : Stage.Within roles (Segments.addAll config) :=
    Stage.within_forM fun layer _ => Segments.addLayer_keeps_roles layer
  exact detached.congr (roles.holds found)

/-- Segments of a searched network have connections, and no management interfaces. -/
theorem anchored_of_searched {config : Config} {network : Network}
    (searched : Searched config network) : network.Anchored := by
  have detached := detached_of_searched searched
  have wired : ∀ segment ∈ network.outlines, network.Wired segment :=
    Segments.outlines_of_searched Wired Segments.addLayer_keeps_roles
      (fun _ _ same _ wired => wired.congr same)
      (fun _ _ linked => (Segments.domains_ofLayer linked).wired linked) searched
  refine ⟨fun id inside => (wired _ (outline_mem_outlines inside)).1, fun id inside port listed => ?_⟩
  have connected := (wired _ (outline_mem_outlines inside)).2 port listed
  cases management : (network.interface port).isManagement with
  | false => rfl
  | true =>
    rw [detached port management] at connected
    cases connected

end Network

end TopoPlan
