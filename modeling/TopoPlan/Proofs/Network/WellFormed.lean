import TopoPlan.Proofs.Network.References
import TopoPlan.Proofs.Network.RelativeViews
import TopoPlan.Proofs.Network.Values

/-!
# Well-formed networks

A compilation makes one network and changes it stage by stage.  `Reached` are the
networks that there are after each stage, and the main statement is
`wellFormed_of_reached`: their references are well-formed.  Each stage keeps references
intact for a reason of its own, and the stages that give values do not touch them.
-/

namespace TopoPlan

namespace Network

open Stage

/-! ## The network of a topology -/

/-- What is known of the references of a network without what later stages add. -/
structure Plain (network : Network) : Prop where
  different : ∀ id, id < network.connections.size →
    (network.connection id).source ≠ (network.connection id).target
  management : ∀ id, (network.node id).managementInterface = none
  members : network.members = #[]
  attachments : network.attachments = #[]
  unattached : ∀ scope, network.attachmentsAt scope = []
  index : network.classIndex = []

section Plain

variable {network : Network}

/-- An interface without attachments keeps a network plain. -/
theorem Plain.addInterface (plain : network.Plain) {added : Interface}
    (attachments : added.attachments = []) : (network.addInterface added).Plain where
  different := plain.different
  management id := by
    rw [node_addInterface_field Node.managementInterface fun _ _ => rfl]
    exact plain.management id
  members := plain.members
  attachments := plain.attachments
  unattached scope := by
    refine Eq.trans ?_ (plain.unattached scope)
    cases scope with
    | node id => exact node_addInterface_field Node.attachments (fun _ _ => rfl) added id
    | interface id => exact interface_addInterface_field Interface.attachments attachments id
    | _ => rfl
  index := plain.index

/-- A connection between different interfaces keeps a network plain. -/
theorem Plain.addConnection (plain : network.Plain) {added : Connection}
    (different : added.source ≠ added.target) (attachments : added.attachments = []) :
    (network.addConnection added).Plain where
  different id inside := by
    rw [size_connections_addConnection] at inside
    rw [connection_addConnection]
    split
    case isTrue => exact different
    case isFalse other =>
      exact plain.different id (Nat.lt_of_le_of_ne (Nat.lt_succ_iff.mp inside) other)
  management := plain.management
  members := plain.members
  attachments := plain.attachments
  unattached scope := by
    refine Eq.trans ?_ (plain.unattached scope)
    unfold Network.addConnection
    rw [attachmentsAt_updateInterface _ fun _ => by rfl,
      attachmentsAt_updateInterface _ fun _ => by rfl]
    cases scope with
    | connection id => exact field_getD_push Connection.attachments attachments id
    | _ => rfl
  index := plain.index

/-- An edge of the topology keeps a network plain. -/
theorem Plain.addEdge (plain : network.Plain) (edge : GraphEdge) (source target : NodeId) :
    (network.addEdge edge source target).Plain := by
  refine ((plain.addInterface rfl).addInterface rfl).addConnection ?_ rfl
  exact Nat.ne_of_lt (Nat.lt_succ_self _)

/-- A group without attachments keeps a network plain. -/
theorem Plain.addGroup (plain : network.Plain) {added : Group}
    (attachments : added.attachments = []) : (network.addGroup added).Plain := by
  have management (id : NodeId) : ((network.addGroup added).node id).managementInterface = none :=
    (node_addGroup_field Node.managementInterface (fun _ _ => rfl) added id).trans
      (plain.management id)
  have listed (id : NodeId) : ((network.addGroup added).node id).attachments = [] :=
    (node_addGroup_field Node.attachments (fun _ _ => rfl) added id).trans
      (plain.unattached (.node id))
  unfold Network.addGroup at management listed ⊢
  dsimp only at management listed ⊢
  rw [foldl_updateNode] at management listed ⊢
  refine ⟨plain.different, management, plain.members, plain.attachments, fun scope => ?_,
    plain.index⟩
  cases scope with
  | node id => exact listed id
  | group id =>
    exact (field_getD_push Group.attachments attachments id).trans (plain.unattached (.group id))
  | interface id => exact plain.unattached (.interface id)
  | connection id => exact plain.unattached (.connection id)
  | segment id => exact plain.unattached (.segment id)
  | _ => rfl

end Plain

/-- A network made from a topology is plain. -/
theorem plain_of_ofTopology {config : Config} {topology : Topology} {built : Network}
    (made : ofTopology config topology = .ok built) : built.Plain := by
  refine ofTopology_induction made (fun parameters => ?_)
    (fun network edge source target _ _ plain => plain.addEdge edge source target)
    fun network given nodes _ plain => plain.addGroup rfl
  refine ⟨fun id inside => absurd inside (Nat.not_lt_zero id), fun id => ?_, rfl, rfl,
    fun scope => ?_, rfl⟩
  · exact node_of_nodes Node.managementInterface topology.nodes _ parameters rfl (fun _ => rfl) id
  · cases scope with
    | node id => exact node_of_nodes Node.attachments topology.nodes _ parameters rfl (fun _ => rfl) id
    | _ => rfl

/-- References are intact in the network of a topology. -/
theorem intact_of_ofTopology {config : Config} {topology : Topology} {built : Network}
    (made : ofTopology config topology = .ok built) : built.Intact := by
  have assembled := assembled_of_ofTopology made
  have plain := plain_of_ofTopology made
  have bare (id : SegmentId) : built.segment id = default := by
    rw [segment, assembled.unsegmented]
    rfl
  constructor
  case linked => exact assembled.linked
  case coherent => exact assembled.coherent
  case different => exact plain.different
  case management =>
    intro id _ made
    cases (plain.management id).symm.trans made
  case segmentPorts =>
    intro id _ listed
    rw [bare] at listed
    cases listed
  case segmentLinks =>
    intro id _ listed
    rw [bare] at listed
    cases listed
  case peers =>
    intro _ inside
    rw [assembled.unsearched] at inside
    cases inside
  case targets =>
    intro _ inside
    rw [plain.members] at inside
    cases inside
  case attachments =>
    rw [plain.attachments]
    exact .of_empty plain.unattached
  case index =>
    rw [plain.index]
    exact List.forall_mem_nil _

/-! ## Stages -/

/-- Resolution keeps references intact. -/
theorem Intact.resolve {config : Config} {extra : ExtraClasses} {before after : Network}
    (intact : before.Intact)
    (run : (Network.resolve config extra).outcome before = (.ok (), after)) : after.Intact := by
  obtain ⟨classified, named, managed, classes, names, management, members⟩ := resolve_eq_ok run
  have renamed := (intact.resolveClasses classes).congr (names untouched untouched_nameless)
  have widened : managed.Intact := Management.addInterfaces_induction
    (fun _ _ name className inside _ intact => intact.addManagement inside name className)
    (fun _ _ _ inside acts intact => intact.classStep (.interface _ _ inside acts))
    management renamed
  have adds : Within (.ofInvariant Intact) (Membership.build config) :=
    Membership.build_within fun _ _ inside entered intact => intact.addMember inside entered
  exact adds.holds members widened

end Network

namespace Segments

open Network Stage

variable {config : Config} {before after : Network}

/-- Neighbors of interfaces that there are. -/
theorem foldl_addNeighbor_intact {network : Network} {neighbors : List Neighbor}
    (inside : ∀ neighbor ∈ neighbors,
      neighbor.self < network.interfaces.size ∧ neighbor.peer < network.interfaces.size)
    (intact : network.Intact) : (neighbors.foldl addNeighbor network).Intact := by
  induction neighbors generalizing network with
  | nil => exact intact
  | cons neighbor rest inductionHypothesis =>
    obtain ⟨⟨self, peer⟩, others⟩ := List.forall_mem_cons.mp inside
    refine inductionHypothesis ?_ (intact.addNeighbor self peer)
    rw [(outlined_addNeighbor network neighbor).1.interfaceCount]
    exact others

/-- A class of a segment that there is. -/
theorem applyClass_intact {id : SegmentId} (inside : id < before.segments.size)
    (definition : SegmentClass) (intact : before.Intact) :
    (applyClass before id definition).Intact := by
  unfold applyClass
  dsimp only
  split
  case isTrue => exact intact
  case isFalse =>
    let classified := before.updateSegment id fun found =>
      { found with
        classes := found.classes ++ [definition.name]
        parameters := definition.params.foldl Parameters.flag found.parameters }
    have changed : untouched.holds before classified :=
      ⟨before.joined_updateSegment (fun _ => by rfl) (fun _ => by rfl) id, rfl⟩
    have size : classified.segments.size = before.segments.size := Array.size_modify
    refine (intact.congr changed).enter ?_ (.segment id)
      (Nat.lt_of_lt_of_eq inside size.symm) rfl
    exact joined_tolerant.enter classified .segment definition.name (.segment id)

/-- Adding a segment of interfaces and connections that there are, with its neighbors and
its classes. -/
theorem addSegment_intact {segment : Segment} (bounded : before.Bounded segment)
    (bare : segment.attachments = [])
    (run : (addSegment config segment).outcome before = (.ok (), after))
    (intact : before.Intact) : after.Intact := by
  unfold addSegment at run
  rw [outcome_get_bind] at run
  dsimp only at run
  rw [outcome_modify_bind, outcome_modify_bind, applyClasses, outcome_get_bind] at run
  let added := before.addSegment segment
  let joined := (neighborsIn added segment.layer segment.interfaces).foldl addNeighbor added
  have size : before.segments.size < joined.segments.size := by
    dsimp only [joined]
    rw [segments_foldl_addNeighbor]
    exact Nat.lt_of_lt_of_eq (Nat.lt_succ_self _) (Array.size_push segment).symm
  have start : joined.Intact := by
    refine foldl_addNeighbor_intact (fun neighbor listed => ?_)
      (intact.addSegment bounded.interfaces bounded.connections bare)
    obtain ⟨_, self, peer, _⟩ := mem_neighborsIn.mp listed
    exact ⟨bounded.interfaces _ self, bounded.interfaces _ peer⟩
  let steady (current : Network) : Prop :=
    current.Intact ∧ before.segments.size < current.segments.size
  refine (outcome_forM_induction steady (fun request _ current next step holds => ?_) run
    ⟨start, size⟩).1
  obtain ⟨definition, _, found, act⟩ := outcome_bind_eq_ok.mp step
  obtain ⟨_, rfl⟩ := outcome_require_eq_ok.mp found
  obtain rfl := outcome_modify_eq_ok.mp act
  exact ⟨applyClass_intact holds.2 definition holds.1,
    (size_segments_applyClass _ _ definition).symm ▸ holds.2⟩

/-- The search for segments keeps references intact. -/
theorem addAll_intact (run : (addAll config).outcome before = (.ok (), after))
    (intact : before.Intact) : after.Intact := by
  refine outcome_forM_induction Intact (fun layer _ current next step intact => ?_) run intact
  rw [addLayer, outcome_get_bind] at step
  have domains : BroadcastDomains current layer (ofLayer current layer) :=
    domains_ofLayer intact.linked
  have bounded := domains.bounded intact.linked
  let steady (reached : Network) : Prop := reached.Intact ∧ SameLinks current reached
  refine (outcome_forM_induction steady (fun segment listed middle later add holds => ?_) step
    ⟨intact, .refl current⟩).1
  obtain ⟨intact, same⟩ := holds
  exact ⟨addSegment_intact (same.bounded (bounded segment listed))
    (new_of_mem_ofLayer listed).2.2.2 add intact, same.trans (addSegment_eq_ok add).1⟩

end Segments

namespace Network

open Stage

/-- Values are no references. -/
theorem untouched_valueless : untouched.Valueless where
  parameters network := network.untouched_updateParameters
  subnet network id _ _ :=
    ⟨network.joined_updateSegment (fun _ => by rfl) (fun _ => by rfl) id, rfl⟩
  nodes network change := by
    refine ⟨⟨{ SameReferences.refl network with
      bulk := ?_
      node := fun id => getD_map_field Node.references (fun _ => by rfl) network.nodes id default }, rfl,
        fun _ => rfl, fun scope => ?_⟩, rfl⟩
    · simp only [bulk, counts, Array.size_map]
    · cases scope with
      | node id => exact getD_map_field Node.attachments (fun _ => by rfl) network.nodes id default
      | _ => rfl
  attachments network change :=
    ⟨⟨{ SameReferences.refl network with }, Array.size_map,
      fun id => getD_map_field Attachment.owner (fun _ => by rfl) network.attachments id default,
      fun scope => by cases scope <;> rfl⟩, rfl⟩

/-- Stages that give values keep references intact. -/
theorem intact_valueless : (Frame.ofInvariant Intact).Valueless :=
  untouched_valueless.mono fun _ _ same intact => intact.congr same

/-- The same references have the same owners. -/
theorem SameReferences.owners {before after : Network} (same : SameReferences before after) :
    Attaching.owners after = Attaching.owners before := by
  have nodes : after.nodes.size = before.nodes.size := same.sameLinks.nodeCount
  have connections : after.connections.size = before.connections.size :=
    same.sameLinks.connectionCount
  have groups : after.groups.size = before.groups.size := congrArg Counts.groups same.bulk
  have segments : after.segments.size = before.segments.size := congrArg Counts.segments same.bulk
  simp only [Attaching.owners, nodeIds, connectionIds, groupIds, segmentIds, nodes, connections,
    groups, segments, same.sameLinks.ports]

end Network

namespace Attaching

open Network Stage

/-- Records of an object that may have records. -/
theorem attach_intact {network : Network} {owner : Scope} (rule : String) (rows : List Row)
    (owned : owner ∈ owners network) (intact : network.Intact) :
    (attach rule network owner rows).Intact ∧
      owners (attach rule network owner rows) = owners network := by
  unfold attach
  let steady (current : Network) : Prop := current.Intact ∧ owners current = owners network
  refine List.foldlRecOn (motive := steady) rows.zipIdx _ ⟨intact, rfl⟩
    fun current holds entry _ => ?_
  obtain ⟨intact, same⟩ := holds
  exact ⟨intact.addAttachment (same ▸ owned),
    (sameReferences_addAttachment current _).owners.trans same⟩

/-- Records keep references intact. -/
theorem attachAll_intact (config : Config) (files : TextFiles) (generators : Generators) :
    Within (.ofInvariant Intact) (attachAll config files generators) := by
  refine within_bind (within_ofExcept _) fun sourceRows => within_forM fun rule _ => ?_
  refine within_get_bind fun network => holds_ofExcept_bind fun records found intact => ?_
  have owned : ∀ entry ∈ records, entry.1 ∈ owners network := by
    intro entry listed
    obtain ⟨owner, requesting, rowed⟩ := (Outcome.mem_mapM_iff found).mp listed
    obtain ⟨rows, _, pair⟩ := Outcome.bind_eq_ok.mp rowed
    cases pair
    exact (List.mem_filter.mp requesting).1
  rw [outcome_set]
  let steady (current : Network) : Prop := current.Intact ∧ owners current = owners network
  refine (List.foldlRecOn (motive := steady) records _ ⟨intact, rfl⟩
    fun current holds entry listed => ?_).1
  obtain ⟨intact, same⟩ := holds
  obtain ⟨attached, kept⟩ := attach_intact rule.name entry.2
    (same.symm ▸ owned entry listed) intact
  exact ⟨attached, kept.trans same⟩

end Attaching

/-! ## Compilation -/

/-- The stages of a compilation, by what they leave. -/
inductive Phase where
  | built
  | resolved
  | searched
  | addressed
  | assigned
  | extended
  | viewed
  deriving DecidableEq

namespace Compiler

open Network Stage

variable {compiler : Compiler} {files : TextFiles} {topology : Topology}

/-- The networks that a compiler makes of a topology, after each stage that succeeds. -/
inductive Reached (compiler : Compiler) (files : TextFiles) (topology : Topology) :
    Phase → Network → Prop where
  | built {network : Network}
      (made : ofTopology compiler.config topology = .ok network) :
      Reached compiler files topology .built network
  | resolved {before after : Network} (reached : Reached compiler files topology .built before)
      (run : (Network.resolve compiler.config compiler.extra).outcome before =
        (.ok (), after)) : Reached compiler files topology .resolved after
  | searched {before after : Network}
      (reached : Reached compiler files topology .resolved before)
      (run : (Segments.addAll compiler.config).outcome before = (.ok (), after)) :
      Reached compiler files topology .searched after
  | addressed {before after : Network}
      (reached : Reached compiler files topology .searched before)
      (run : (Addressing.assignAll compiler.config).outcome before = (.ok (), after)) :
      Reached compiler files topology .addressed after
  | assigned {before after : Network}
      (reached : Reached compiler files topology .addressed before)
      (run : (Assignment.assignAll compiler.config files compiler.generators).outcome before =
        (.ok (), after)) : Reached compiler files topology .assigned after
  | extended {before : Network} (reached : Reached compiler files topology .assigned before) :
      Reached compiler files topology .extended (compiler.giveParameters before)
  | viewed {before after : Network} {order : List Scope}
      (reached : Reached compiler files topology .extended before)
      (run : View.build.outcome before = (.ok order, after)) :
      Reached compiler files topology .viewed after

section Runs

/-- The network of a topology, if there is one. -/
def built (compiler : Compiler) (topology : Topology) : Network :=
  (ofTopology compiler.config topology).toOption.getD {}

/-- The network that resolution leaves. -/
def resolved (compiler : Compiler) (topology : Topology) : Network :=
  ((Network.resolve compiler.config compiler.extra).outcome (compiler.built topology)).2

/-- The network that the search for segments leaves. -/
def searched (compiler : Compiler) (topology : Topology) : Network :=
  ((Segments.addAll compiler.config).outcome (compiler.resolved topology)).2

/-- The network that the assignment of addresses leaves. -/
def addressed (compiler : Compiler) (topology : Topology) : Network :=
  ((Addressing.assignAll compiler.config).outcome (compiler.searched topology)).2

/-- The network that the assignment of parameters leaves. -/
def assigned (compiler : Compiler) (files : TextFiles) (topology : Topology) : Network :=
  ((Assignment.assignAll compiler.config files compiler.generators).outcome
    (compiler.addressed topology)).2

/-- The network with the parameters of extensions. -/
def extended (compiler : Compiler) (files : TextFiles) (topology : Topology) : Network :=
  compiler.giveParameters (compiler.assigned files topology)

/-- The stages before views succeed. -/
structure Succeeds (compiler : Compiler) (files : TextFiles) (topology : Topology) : Prop where
  built : (ofTopology compiler.config topology).isOk = true
  resolution : ((Network.resolve compiler.config compiler.extra).outcome
    (compiler.built topology)).1 = .ok ()
  search : ((Segments.addAll compiler.config).outcome (compiler.resolved topology)).1 = .ok ()
  addresses : ((Addressing.assignAll compiler.config).outcome
    (compiler.searched topology)).1 = .ok ()
  assignment : ((Assignment.assignAll compiler.config files compiler.generators).outcome
    (compiler.addressed topology)).1 = .ok ()

/-- What stages that succeed leave is reached. -/
theorem Succeeds.reached_addressed (succeeds : compiler.Succeeds files topology) :
    compiler.Reached files topology .addressed (compiler.addressed topology) := by
  have made : ofTopology compiler.config topology = .ok (compiler.built topology) :=
    Outcome.eq_ok_of_isOk ({} : Network) succeeds.built
  exact .addressed (.searched (.resolved (.built made) (outcome_eq_ok succeeds.resolution))
    (outcome_eq_ok succeeds.search)) (outcome_eq_ok succeeds.addresses)

/-- A run that succeeds reaches the extended network. -/
theorem Succeeds.reached_extended (succeeds : compiler.Succeeds files topology) :
    compiler.Reached files topology .extended (compiler.extended files topology) :=
  .extended (.assigned succeeds.reached_addressed (outcome_eq_ok succeeds.assignment))

end Runs

/-- A compilation ends with views of a network that it reached. -/
theorem exists_extended_of_resolve {network : Network} {order : List Scope}
    (compiled : compiler.resolve files topology = .ok (network, order)) :
    ∃ extended, compiler.Reached files topology .extended extended ∧
      View.build.outcome extended = (.ok order, network) := by
  obtain ⟨built, made, ran⟩ := Outcome.bind_eq_ok.mp compiled
  have succeeds : (compiler.run files).outcome built = (.ok order, network) := by
    cases outcome : (compiler.run files).outcome built with
    | mk result after =>
      rw [outcome] at ran
      obtain ⟨_, rfl, same⟩ := Outcome.map_eq_ok.mp ran
      cases same
      rfl
  obtain ⟨_, resolved, resolution, run⟩ := outcome_bind_eq_ok.mp succeeds
  obtain ⟨_, searched, search, run⟩ := outcome_bind_eq_ok.mp run
  obtain ⟨_, addressed, addresses, run⟩ := outcome_bind_eq_ok.mp run
  obtain ⟨_, assigned, assignment, run⟩ := outcome_bind_eq_ok.mp run
  rw [outcome_modify_bind] at run
  obtain ⟨_, viewed, views, run⟩ := outcome_bind_eq_ok.mp run
  rw [outcome_get_bind] at run
  obtain ⟨_, _, check, last⟩ := outcome_bind_eq_ok.mp run
  obtain ⟨_, rfl⟩ := outcome_ofExcept_eq_ok.mp check
  cases last
  exact ⟨_, .extended (.assigned (.addressed (.searched (.resolved (.built made)
    resolution) search) addresses) assignment), views⟩

/-- Stages that all succeed are a compilation. -/
theorem resolve_of_extended {extended network : Network} {order : List Scope}
    (reached : compiler.Reached files topology .extended extended)
    (views : View.build.outcome extended = (.ok order, network))
    (checked : compiler.check network = .ok ()) :
    compiler.resolve files topology = .ok (network, order) := by
  cases reached with
  | extended reached =>
    cases reached with
    | assigned reached assignment =>
      cases reached with
      | addressed reached addresses =>
        cases reached with
        | searched reached search =>
          cases reached with
          | @resolved built _ reached resolution =>
            cases reached with
            | built made =>
              have last : (compiler.run files).outcome built = (.ok order, network) := by
                refine outcome_bind_eq_ok.mpr ⟨_, _, resolution, outcome_bind_eq_ok.mpr
                  ⟨_, _, search, outcome_bind_eq_ok.mpr ⟨_, _, addresses,
                    outcome_bind_eq_ok.mpr ⟨_, _, assignment, ?_⟩⟩⟩⟩
                rw [outcome_modify_bind]
                refine outcome_bind_eq_ok.mpr ⟨_, _, views, ?_⟩
                rw [outcome_get_bind]
                exact outcome_bind_eq_ok.mpr
                  ⟨_, _, outcome_ofExcept_eq_ok.mpr ⟨checked, rfl⟩, rfl⟩
              refine Outcome.bind_eq_ok.mpr ⟨built, made, ?_⟩
              rw [last]
              rfl

/-- In every phase of a compilation the links of a network are intact. -/
theorem intact_of_reached {phase : Phase} {network : Network}
    (reached : compiler.Reached files topology phase network) : network.Intact := by
  induction reached with
  | built made => exact intact_of_ofTopology made
  | resolved _ run intact => exact intact.resolve run
  | searched _ run intact => exact Segments.addAll_intact run intact
  | addressed _ run intact =>
    exact (Addressing.assignAll_within intact_valueless compiler.config).holds run intact
  | assigned _ run intact =>
    have attaches := Attaching.attachAll_intact compiler.config files compiler.generators
    exact (Assignment.assignAll_within intact_valueless _ files _ attaches).holds run intact
  | extended _ intact => exact compiler.giveParameters_holds intact_valueless _ intact
  | viewed _ run intact => exact (View.build_within intact_valueless).holds run intact

/-- References are well-formed in every network that a compilation reaches. -/
theorem wellFormed_of_reached {phase : Phase} {network : Network}
    (reached : compiler.Reached files topology phase network) : network.WellFormed :=
  (intact_of_reached reached).wellFormed

end Compiler

namespace Branch

/-- The compiler of the configuration. -/
def compiler : Compiler where
  config := config
  extensions := [.builtin]
  generators := {}
  extra := {}

/-- The configuration makes a compiler. -/
theorem compiler_of_config : Compiler.ofConfig config = .ok compiler := by
  rfl

/-- The network with its addresses. -/
def addressed : Network := ((Addressing.assignAll config).outcome searched).2

/-- The network with its parameters and records. -/
def assigned : Network := ((Assignment.assignAll config .none {}).outcome addressed).2

theorem addressed_of_searched :
    (Addressing.assignAll config).outcome searched = (.ok (), addressed) :=
  Stage.outcome_eq_ok (by decide +kernel)

theorem assigned_of_addressed :
    (Assignment.assignAll config .none {}).outcome addressed = (.ok (), assigned) :=
  Stage.outcome_eq_ok (by decide +kernel)

/-- The run reaches the assigned network. -/
theorem reached_assigned : compiler.Reached .none topology .assigned assigned :=
  .assigned (.addressed (.searched (.resolved (.built built_of_topology) resolved_of_built)
    searched_of_resolved) addressed_of_searched) assigned_of_addressed

/-- The compilation goes on to the views, and references are well-formed then. -/
theorem viewed_wellFormed :
    Compiler.ofConfig config = .ok compiler ∧
      ∃ viewed, compiler.Reached .none topology .viewed viewed ∧ viewed.WellFormed := by
  refine ⟨compiler_of_config, ?_⟩
  obtain ⟨order, viewed, run⟩ :
      ∃ order after, View.build.outcome (compiler.giveParameters assigned) = (.ok order, after) :=
    View.exists_build (by decide +kernel) (by decide +kernel)
  have reached := Compiler.Reached.viewed (.extended reached_assigned) run
  exact ⟨viewed, reached, Compiler.wellFormed_of_reached reached⟩

example : assigned.neighbors.size = 2 ∧ assigned.members.size = 2 ∧
    assigned.attachments.size = 4 := by
  decide +kernel

end Branch

end TopoPlan
