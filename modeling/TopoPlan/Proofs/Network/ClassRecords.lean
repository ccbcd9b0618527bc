import Mathlib.Logic.Function.Basic
import TopoPlan.Proofs.Config.Definitions
import TopoPlan.Proofs.Network.ClassSteps
import TopoPlan.Proofs.Network.Coherence
import TopoPlan.Proofs.Network.SearchedSegments

/-!
# Records of classes

The classes of an object are recorded twice: in the object, and in the index of the
network, where the members of a class are looked up.  `Agrees` says that the two
records tell the same.  Every stage that changes one of them keeps it; the main
statement is `entered_iff_mem_classesOf`, for networks whose segments have been
searched.
-/

namespace TopoPlan

namespace Network

/-- An index and the lists of classes of all objects tell the same, without repetition. -/
structure Agrees (index : List (ClassKind × String × Scope)) (classes : Scope → List String) :
    Prop where
  entered : ∀ kind name scope,
    (kind, name, scope) ∈ index ↔ scope.classKind? = some kind ∧ name ∈ classes scope
  indexOnce : index.Nodup
  classesOnce : ∀ scope, (classes scope).Nodup

/-- The lists of classes, with other classes for the network itself. -/
def classesWith (network : Network) (names : List String) : Scope → List String :=
  Function.update network.classesOf .network names

/-- The classes of objects are those with the classes of the network itself. -/
theorem classesWith_classes (network : Network) :
    network.classesWith network.classes = network.classesOf :=
  Function.update_eq_self Scope.network network.classesOf

/-- The two records of classes tell the same. -/
def Recorded (network : Network) : Prop :=
  Agrees network.classIndex network.classesOf

/-- Nothing is entered yet, and no object but the network has classes. -/
theorem agrees_empty {network : Network} (index : network.classIndex = [])
    (classes : ∀ scope, scope ≠ .network → network.classesOf scope = []) :
    Agrees network.classIndex (network.classesWith []) := by
  have none : ∀ scope, network.classesWith [] scope = [] := by
    intro scope
    by_cases here : scope = .network
    · rw [here, classesWith, Function.update_self]
    · rw [classesWith, Function.update_of_ne here, classes scope here]
  refine ⟨fun kind name scope => ?_, ?_, fun scope => ?_⟩
  · rw [index, none]
    simp
  · rw [index]
    exact List.nodup_nil
  · rw [none]
    exact List.nodup_nil

/-- An object gets a class that it has not got, and is entered under it. -/
theorem Agrees.enter {network : Network} {classes : Scope → List String}
    (agrees : Agrees network.classIndex classes) (scope : Scope) {kind : ClassKind}
    {name : String} (ofKind : scope.classKind? = some kind) (fresh : name ∉ classes scope) :
    Agrees (network.enter kind name scope).classIndex
      (Function.update classes scope (classes scope ++ [name])) := by
  have new : (kind, name, scope) ∉ network.classIndex := fun listed =>
    fresh ((agrees.entered kind name scope).mp listed).2
  have index : (network.enter kind name scope).classIndex =
      network.classIndex ++ [(kind, name, scope)] := by
    rw [Network.enter, if_neg (by simpa using new)]
  rw [index]
  refine ⟨fun otherKind other otherScope => ?_, ?_, fun otherScope => ?_⟩
  · rw [List.mem_append, List.mem_singleton, agrees.entered, Prod.mk.injEq, Prod.mk.injEq]
    by_cases here : otherScope = scope
    · subst here
      rw [Function.update_self, List.mem_append, List.mem_singleton, ofKind]
      constructor
      · rintro (⟨same, listed⟩ | ⟨rfl, rfl, _⟩)
        · exact ⟨same, .inl listed⟩
        · exact ⟨rfl, .inr rfl⟩
      · rintro ⟨same, listed | rfl⟩
        · exact .inl ⟨same, listed⟩
        · cases same
          exact .inr ⟨rfl, rfl, rfl⟩
    · rw [Function.update_of_ne here]
      exact or_iff_left fun found => here found.2.2
  · rw [← List.concat_eq_append]
    exact agrees.indexOnce.concat new
  · by_cases here : otherScope = scope
    · subst here
      rw [Function.update_self, ← List.concat_eq_append]
      exact (agrees.classesOnce otherScope).concat fresh
    · rw [Function.update_of_ne here]
      exact agrees.classesOnce otherScope

/-- An object other than the network gets a class that it has not got. -/
theorem Agrees.enterObject {network after : Network} {names : List String}
    (agrees : Agrees network.classIndex (network.classesWith names)) (scope : Scope)
    {kind : ClassKind} {name : String} (ofKind : scope.classKind? = some kind)
    (object : scope ≠ .network) (fresh : name ∉ network.classesOf scope)
    (index : after.classIndex = (network.enter kind name scope).classIndex)
    (classes : after.classesOf =
      Function.update network.classesOf scope (network.classesOf scope ++ [name])) :
    Agrees after.classIndex (after.classesWith names) := by
  have own : network.classesWith names scope = network.classesOf scope :=
    Function.update_of_ne object _ _
  have entered := Agrees.enter agrees scope ofKind (own.symm ▸ fresh)
  rw [own] at entered
  rw [index, classesWith, classes, Function.update_comm object]
  exact entered

/-! ## Lists of classes after a change -/

/-- The frame of stages that leave the records of classes alone. -/
def sameRecords : Frame where
  holds before after := after.classIndex = before.classIndex ∧ after.classesOf = before.classesOf
  refl _ := ⟨rfl, rfl⟩
  trans first second := ⟨second.1.trans first.1, second.2.trans first.2⟩

/-- Records that stay the same still agree. -/
theorem Agrees.congr {before after : Network} {names : List String}
    (agrees : Agrees before.classIndex (before.classesWith names))
    (same : sameRecords.holds before after) :
    Agrees after.classIndex (after.classesWith names) := by
  rw [same.1, classesWith, same.2]
  exact agrees

section Changes

variable (network : Network)

/-- Other changes of a node keep the records of classes. -/
theorem sameRecords_updateNode {change : Node → Node}
    (keeps : ∀ node, (change node).classes = node.classes) (id : NodeId) :
    sameRecords.holds network (network.updateNode id change) := by
  refine ⟨rfl, funext fun scope => ?_⟩
  cases scope with
  | node other => exact network.node_updateNode_field keeps id other
  | _ => rfl

/-- Other changes of an interface keep the records of classes. -/
theorem sameRecords_updateInterface {change : Interface → Interface}
    (keeps : ∀ interface, (change interface).classes = interface.classes) (id : InterfaceId) :
    sameRecords.holds network (network.updateInterface id change) := by
  refine ⟨rfl, funext fun scope => ?_⟩
  cases scope with
  | interface other => exact network.interface_updateInterface_field keeps id other
  | _ => rfl

/-- Other changes of a connection keep the records of classes. -/
theorem sameRecords_updateConnection {change : Connection → Connection}
    (keeps : ∀ connection, (change connection).classes = connection.classes)
    (id : ConnectionId) : sameRecords.holds network (network.updateConnection id change) := by
  refine ⟨rfl, funext fun scope => ?_⟩
  cases scope with
  | connection other => exact network.connection_updateConnection_field keeps id other
  | _ => rfl

/-- The index of classes is no part of the lists of the objects. -/
@[simp]
theorem classesOf_enter (kind : ClassKind) (name : String) (scope : Scope) :
    (network.enter kind name scope).classesOf = network.classesOf := by
  rw [enter_eq]
  funext other
  cases other <;> rfl

variable {name : String}

/-- A change that appends a class to a node is one update of the lists. -/
theorem classesOf_updateNode {change : Node → Node}
    (adds : ∀ node, (change node).classes = node.classes ++ [name]) {id : NodeId}
    (inside : id < network.nodes.size) :
    (network.updateNode id change).classesOf =
      Function.update network.classesOf (.node id) (network.classesOf (.node id) ++ [name]) := by
  have lists := list_getD_modify Node.classes adds inside
  refine Function.eq_update_iff.mpr ⟨(lists id default).trans (if_pos rfl), fun scope other => ?_⟩
  cases scope with
  | node position =>
    exact (lists position default).trans (if_neg fun same => other (congrArg _ same))
  | _ => rfl

/-- A change that appends a class to an interface is one update of the lists. -/
theorem classesOf_updateInterface {change : Interface → Interface}
    (adds : ∀ interface, (change interface).classes = interface.classes ++ [name])
    {id : InterfaceId} (inside : id < network.interfaces.size) :
    (network.updateInterface id change).classesOf = Function.update network.classesOf
      (.interface id) (network.classesOf (.interface id) ++ [name]) := by
  have lists := list_getD_modify Interface.classes adds inside
  refine Function.eq_update_iff.mpr ⟨(lists id default).trans (if_pos rfl), fun scope other => ?_⟩
  cases scope with
  | interface position =>
    exact (lists position default).trans (if_neg fun same => other (congrArg _ same))
  | _ => rfl

/-- A change that appends a class to a connection is one update of the lists. -/
theorem classesOf_updateConnection {change : Connection → Connection}
    (adds : ∀ connection, (change connection).classes = connection.classes ++ [name])
    {id : ConnectionId} (inside : id < network.connections.size) :
    (network.updateConnection id change).classesOf = Function.update network.classesOf
      (.connection id) (network.classesOf (.connection id) ++ [name]) := by
  have lists := list_getD_modify Connection.classes adds inside
  refine Function.eq_update_iff.mpr ⟨(lists id default).trans (if_pos rfl), fun scope other => ?_⟩
  cases scope with
  | connection position =>
    exact (lists position default).trans (if_neg fun same => other (congrArg _ same))
  | _ => rfl

/-- A change that appends a class to a group is one update of the lists. -/
theorem classesOf_updateGroup {change : Group → Group}
    (adds : ∀ group, (change group).classes = group.classes ++ [name]) {id : GroupId}
    (inside : id < network.groups.size) :
    (network.updateGroup id change).classesOf =
      Function.update network.classesOf (.group id) (network.classesOf (.group id) ++ [name]) := by
  have lists := list_getD_modify Group.classes adds inside
  refine Function.eq_update_iff.mpr ⟨(lists id default).trans (if_pos rfl), fun scope other => ?_⟩
  cases scope with
  | group position =>
    exact (lists position default).trans (if_neg fun same => other (congrArg _ same))
  | _ => rfl

/-- A change that appends a class to a segment is one update of the lists. -/
theorem classesOf_updateSegment {change : Segment → Segment}
    (adds : ∀ segment, (change segment).classes = segment.classes ++ [name]) {id : SegmentId}
    (inside : id < network.segments.size) :
    (network.updateSegment id change).classesOf = Function.update network.classesOf
      (.segment id) (network.classesOf (.segment id) ++ [name]) := by
  have lists := list_getD_modify Segment.classes adds inside
  refine Function.eq_update_iff.mpr ⟨(lists id default).trans (if_pos rfl), fun scope other => ?_⟩
  cases scope with
  | segment position =>
    exact (lists position default).trans (if_neg fun same => other (congrArg _ same))
  | _ => rfl

end Changes

end Network

namespace ClassEffects

open Network Stage
open Relation (ReflTransGen)

variable {config : Config} {before after : Network}

/-- Policies given to interfaces record no class. -/
theorem sameRecords_giveInterfaces (config : Config) (network : Network)
    (interfaces : List InterfaceId) (policies : List String) :
    sameRecords.holds network (network.giveInterfaces config interfaces policies) :=
  giveInterfaces_holds (fun current id _ =>
    current.sameRecords_updateInterface (fun _ => by rfl) id) network interfaces policies

/-- A widened interface records no class. -/
theorem sameRecords_widen (network : Network) (id : InterfaceId) (definition : InterfaceClass) :
    sameRecords.holds network (network.widen id definition) := by
  unfold widen
  split
  · exact network.sameRecords_updateConnection (fun _ => by rfl) _
  · exact sameRecords.refl network

/-- The start of a visit to an interface records no class. -/
theorem sameRecords_startInterface (network : Network) (id : InterfaceId) :
    sameRecords.holds network (network.startInterface config id) := by
  unfold startInterface
  dsimp only
  have marked : sameRecords.holds network (network.updateInterface id fun found =>
      { found with
        isVirtual := (network.node (network.interface id).node).isVirtual
        stem := interfaceStem }) := network.sameRecords_updateInterface (fun _ => by rfl) id
  split
  · refine sameRecords.trans marked (sameRecords_updateInterface _ ?_ id)
    exact withConnection_field Interface.classes (fun _ _ _ _ _ _ => rfl) (fun _ _ _ => rfl) _
  · exact marked

/-- Each action of a class records it twice. -/
theorem ClassStep.agrees {names : List String} (step : ClassStep config before after)
    (agrees : Agrees before.classIndex (before.classesWith names)) :
    Agrees after.classIndex (after.classesWith names) := by
  cases step with
  | startNode id => exact agrees.congr (before.sameRecords_updateNode (fun _ => by rfl) id)
  | node id _ inside acts =>
    obtain ⟨definition, _, fresh, _⟩ := acts
    have given := sameRecords_giveInterfaces config
      (before.enter .node definition.name (.node id)) (before.node id).interfaces
      definition.interfacePolicies
    refine agrees.enterObject (.node id) rfl nofun fresh given.1 ?_
    rw [classesOf_updateNode _ (fun _ => by rfl), given.2, classesOf_enter]
    rw [nodes_giveInterfaces, enter_eq]
    exact inside
  | startConnection id =>
    exact agrees.congr (before.sameRecords_updateConnection (fun _ => by rfl) id)
  | connection id _ inside acts =>
    obtain ⟨definition, _, fresh, _⟩ := acts
    refine agrees.enterObject (.connection id) rfl nofun fresh rfl ?_
    rw [classesOf_updateConnection _ (fun _ => by rfl), classesOf_enter]
    rw [enter_eq]
    exact inside
  | startInterface id => exact agrees.congr (sameRecords_startInterface before id)
  | interface id _ inside acts =>
    obtain ⟨definition, _, fresh, _⟩ := acts
    have widened := sameRecords_widen (before.enter .interface definition.name (.interface id)) id
      definition
    refine agrees.enterObject (.interface id) rfl nofun fresh widened.1 ?_
    rw [classesOf_updateInterface _ (fun _ => by rfl), widened.2, classesOf_enter]
    rw [interfaces_widen, enter_eq]
    exact inside
  | group id _ inside acts =>
    obtain ⟨definition, _, fresh⟩ := acts
    refine agrees.enterObject (.group id) rfl nofun fresh rfl ?_
    rw [classesOf_updateGroup _ (fun _ => by rfl), classesOf_enter]
    rw [enter_eq]
    exact inside

/-- The classes of the network are entered one after the other. -/
theorem foldl_applyNetworkClass_agrees {network : Network} {definitions : List NetworkClass}
    {done : List String} (once : (done ++ definitions.map (·.name)).Nodup)
    (agrees : Agrees network.classIndex (network.classesWith done)) :
    Agrees (definitions.foldl applyNetworkClass network).classIndex
      ((definitions.foldl applyNetworkClass network).classesWith
        (done ++ definitions.map (·.name))) := by
  induction definitions generalizing network done with
  | nil =>
    rw [List.map_nil, List.append_nil]
    exact agrees
  | cons definition rest inductionHypothesis =>
    rw [List.map_cons, List.append_cons] at once ⊢
    refine inductionHypothesis once ?_
    have fresh : definition.name ∉ done := by
      have first := (List.nodup_append.mp once).1
      exact fun listed => (List.nodup_append.mp first).2.2 _ listed _
        (List.mem_singleton_self _) rfl
    have own : network.classesWith done .network = done := Function.update_self _ _ _
    have entered := Agrees.enter agrees .network rfl (own.symm ▸ fresh)
    have classes : (applyNetworkClass network definition).classesOf = network.classesOf := by
      rw [← network.classesOf_enter .network definition.name .network]
      funext scope
      cases scope <;> rfl
    rw [own, classesWith, Function.update_idem, ← classes] at entered
    exact entered

/-- The frame of stages that leave the classes of the network itself alone. -/
def ownClasses : Frame where
  holds before after := after.classes = before.classes
  refl _ := rfl
  trans first second := second.trans first

/-- The classes of the connections and groups survive what resolution does besides classes. -/
theorem ownClasses_tolerant : ownClasses.Tolerant where
  node _ _ _ _ := rfl
  interface _ _ _ _ := rfl
  connection _ _ _ _ := rfl
  group _ _ _ _ := rfl
  enter network kind className scope := by
    rw [enter_eq]
    rfl
  parameters _ _ := rfl

/-- What is known of the records of classes before any class has acted. -/
structure Unclassified (config : Config) (network : Network) : Prop where
  index : network.classIndex = []
  objects : ∀ scope, scope ≠ .network → network.classesOf scope = []
  own : network.classes = config.networkClasses.map (·.name)

/-- The effects of all classes are recorded twice. -/
theorem resolveClasses_agrees {extra : ExtraClasses}
    (names : (config.networkClasses.map (·.name)).Nodup)
    (unclassified : Unclassified config before)
    (run : (resolveClasses config extra).outcome before = (.ok (), after)) :
    after.Recorded := by
  have own : after.classes = before.classes :=
    (resolveClasses_within ownClasses_tolerant extra).holds run
  obtain ⟨classified, chain, rfl⟩ := resolveClasses_steps run
  have agrees : Agrees classified.classIndex (classified.classesWith []) := by
    clear run own
    induction chain with
    | refl => exact agrees_empty unclassified.index unclassified.objects
    | tail _ last inductionHypothesis => exact last.agrees inductionHypothesis
  have all := foldl_applyNetworkClass_agrees (by rwa [List.nil_append]) agrees
  rw [List.nil_append, ← unclassified.own, ← own, classesWith_classes] at all
  exact all

/-- One class given keeps the lists of classes and the index in step. -/
theorem ClassStep.recorded (step : ClassStep config before after) (recorded : before.Recorded) :
    after.Recorded := by
  have own : after.classes = before.classes := step.holds ownClasses_tolerant
  rw [Recorded, ← classesWith_classes] at recorded ⊢
  rw [own]
  exact step.agrees recorded

end ClassEffects

namespace Network

open Stage

variable {network : Network}

/-- Whether classes are recorded depends on the lists and the index alone. -/
theorem Recorded.congr {before after : Network} (recorded : before.Recorded)
    (same : sameRecords.holds before after) : after.Recorded := by
  rw [Recorded, same.1, same.2]
  exact recorded

/-- An object gets a class that it has not got, in both records. -/
theorem Recorded.enter {before after : Network} (recorded : before.Recorded) (scope : Scope)
    {kind : ClassKind} {name : String} (ofKind : scope.classKind? = some kind)
    (fresh : name ∉ before.classesOf scope)
    (index : after.classIndex = (before.enter kind name scope).classIndex)
    (classes : after.classesOf =
      Function.update before.classesOf scope (before.classesOf scope ++ [name])) :
    after.Recorded := by
  rw [Recorded, index, classes]
  exact Agrees.enter recorded scope ofKind fresh

/-! ## Adding objects -/

/-- A new interface without classes leaves the records as they are. -/
theorem sameRecords_addInterface (network : Network) (added : Interface)
    (bare : added.classes = []) : sameRecords.holds network (network.addInterface added) := by
  refine ⟨rfl, funext fun scope => ?_⟩
  cases scope with
  | node id => exact node_addInterface_field Node.classes (fun _ _ => rfl) added id
  | interface id => exact interface_addInterface_field Interface.classes bare id
  | _ => rfl

/-- A new connection without classes leaves the records as they are. -/
theorem sameRecords_addConnection (network : Network) {added : Connection}
    (bare : added.classes = []) : sameRecords.holds network (network.addConnection added) := by
  have pushed : sameRecords.holds network
      { network with connections := network.connections.push added } := by
    refine ⟨rfl, funext fun scope => ?_⟩
    cases scope with
    | connection id =>
      exact field_getD_push Connection.classes bare id
    | _ => rfl
  refine sameRecords.trans (sameRecords.trans pushed (sameRecords_updateInterface _ ?_ _))
    (sameRecords_updateInterface _ ?_ _)
  · exact fun _ => rfl
  · exact fun _ => rfl

/-- A new group without classes leaves the records as they are. -/
theorem sameRecords_addGroup (network : Network) {added : Group} (bare : added.classes = []) :
    sameRecords.holds network (network.addGroup added) := by
  have pushed : sameRecords.holds network { network with groups := network.groups.push added } := by
    refine ⟨rfl, funext fun scope => ?_⟩
    cases scope with
    | group id =>
      exact field_getD_push Group.classes bare id
    | _ => rfl
  refine sameRecords.trans pushed
    (sameRecords.foldl (fun current => current) (fun current id => ?_) _ added.nodes)
  exact current.sameRecords_updateNode (fun _ => by rfl) id

/-- A management interface leaves the records as they are. -/
theorem sameRecords_addManagement (network : Network) (node : NodeId) (name className : String) :
    sameRecords.holds network (network.addManagement node name className) := by
  refine sameRecords.trans (sameRecords_addInterface network _ ?_)
    (sameRecords_updateNode _ ?_ node)
  · rfl
  · exact fun _ => rfl

/-- A member leaves the records as they are. -/
theorem sameRecords_addMember (network : Network) (member : Member) :
    sameRecords.holds network (network.addMember member) := by
  refine sameRecords.addMember (fun _ => ⟨rfl, funext fun scope => by cases scope <;> rfl⟩)
    ?_ ?_ ?_ member
  · exact fun current id _ => current.sameRecords_updateNode (fun _ => by rfl) id
  · exact fun current id _ => current.sameRecords_updateInterface (fun _ => by rfl) id
  · exact fun current id _ => current.sameRecords_updateConnection (fun _ => by rfl) id

/-- A neighbor leaves the records as they are. -/
theorem sameRecords_addNeighbor (network : Network) (neighbor : Neighbor) :
    sameRecords.holds network (network.addNeighbor neighbor) := by
  have pushed : sameRecords.holds network
      { network with neighbors := network.neighbors.push neighbor } :=
    ⟨rfl, funext fun scope => by cases scope <;> rfl⟩
  exact sameRecords.trans pushed (sameRecords_updateInterface _ (fun _ => by rfl) _)

/-- A new segment without classes leaves the records as they are. -/
theorem sameRecords_addSegment (network : Network) {segment : Segment}
    (bare : segment.classes = []) : sameRecords.holds network (network.addSegment segment) := by
  refine ⟨rfl, funext fun scope => ?_⟩
  cases scope with
  | segment id =>
    exact field_getD_push Segment.classes bare id
  | _ => rfl

/-- Names are no part of the records. -/
theorem sameRecords_nameless : sameRecords.Nameless where
  node network id _ := network.sameRecords_updateNode (fun _ => by rfl) id
  interface network id _ := network.sameRecords_updateInterface (fun _ => by rfl) id
  connection network id _ := network.sameRecords_updateConnection (fun _ => by rfl) id

/-! ## Stages -/

/-- Nothing is recorded in the network of a topology, except what classes it has itself. -/
theorem unclassified_of_ofTopology {config : Config} {topology : Topology} {built : Network}
    (made : ofTopology config topology = .ok built) :
    ClassEffects.Unclassified config built := by
  have step {before after : Network} (same : sameRecords.holds before after)
      (own : after.classes = before.classes) :
      ClassEffects.Unclassified config before → ClassEffects.Unclassified config after :=
    fun start => ⟨same.1.trans start.index, fun scope object =>
      (congrFun same.2 scope).trans (start.objects scope object), own.trans start.own⟩
  refine ofTopology_induction made (fun parameters => ⟨rfl, fun scope object => ?_, rfl⟩) ?_ ?_
  · cases scope with
    | network => exact absurd rfl object
    | node id => exact node_of_nodes Node.classes topology.nodes _ parameters rfl (fun _ => rfl) id
    | _ => rfl
  · intro network edge source target _ _
    refine step (sameRecords.trans (sameRecords_addInterface _ _ ?_) (sameRecords.trans
      (sameRecords_addInterface _ _ ?_) (sameRecords_addConnection _ ?_))) ?_
    all_goals rfl
  · intro network given nodes _
    refine step (network.sameRecords_addGroup rfl) ?_
    unfold Network.addGroup
    dsimp only
    rw [foldl_updateNode]

/-- The records tell the same in a resolved network. -/
theorem recorded_of_resolve {config : Config} {topology : Topology} {extra : ExtraClasses}
    {built resolved : Network} (names : (config.networkClasses.map (·.name)).Nodup)
    (made : ofTopology config topology = .ok built)
    (run : (resolve config extra).outcome built = (.ok (), resolved)) : resolved.Recorded := by
  obtain ⟨classified, named, managed, classes, names, management, members⟩ := resolve_eq_ok run
  have recorded := ClassEffects.resolveClasses_agrees ‹_› (unclassified_of_ofTopology made) classes
  have renamed := recorded.congr (names sameRecords sameRecords_nameless)
  have widened : managed.Recorded := Management.addInterfaces_induction
    (fun network node name className _ _ recorded =>
      recorded.congr (network.sameRecords_addManagement node name className))
    (fun _ _ id inside acts recorded =>
      (ClassEffects.ClassStep.interface id _ inside acts).recorded recorded)
    management renamed
  have adds : Within (.ofInvariant Recorded) (Membership.build config) :=
    Membership.build_within fun network member _ _ recorded =>
      recorded.congr (network.sameRecords_addMember member)
  exact adds.holds members widened

end Network

namespace Segments

open Network Stage

variable {config : Config} {before after : Network}

/-- A class of a segment that there is is recorded twice. -/
theorem applyClass_records {id : SegmentId} (inside : id < before.segments.size)
    (definition : SegmentClass) (recorded : before.Recorded) :
    (applyClass before id definition).Recorded := by
  unfold applyClass
  dsimp only
  split
  case isTrue => exact recorded
  case isFalse refused =>
    have fresh : definition.name ∉ before.classesOf (.segment id) := by
      intro listed
      rw [Bool.or_eq_true] at refused
      exact refused (.inr (List.contains_iff_mem.mpr listed))
    refine recorded.enter (.segment id) rfl fresh ?_ ?_
    · unfold Network.enter updateSegment
      dsimp only
      split <;> rfl
    · rw [classesOf_enter]
      exact classesOf_updateSegment before (fun _ => rfl) inside

/-- A class given to a segment adds no segment. -/
theorem size_segments_applyClass (network : Network) (id : SegmentId)
    (definition : SegmentClass) :
    (applyClass network id definition).segments.size = network.segments.size := by
  unfold applyClass
  dsimp only
  split
  · rfl
  · rw [enter_eq]
    exact Array.size_modify

/-- Neighbors add no segments. -/
theorem segments_foldl_addNeighbor (network : Network) (neighbors : List Neighbor) :
    (neighbors.foldl addNeighbor network).segments = network.segments := by
  induction neighbors generalizing network with
  | nil => rfl
  | cons neighbor rest inductionHypothesis =>
    rw [List.foldl_cons, inductionHypothesis]
    rfl

/-- Adding a segment without classes, its neighbors and its classes. -/
theorem addSegment_records {segment : Segment} (bare : segment.classes = [])
    (run : (addSegment config segment).outcome before = (.ok (), after))
    (recorded : before.Recorded) : after.Recorded := by
  unfold addSegment at run
  rw [outcome_get_bind] at run
  dsimp only at run
  rw [outcome_modify_bind, outcome_modify_bind, applyClasses, outcome_get_bind] at run
  let added := before.addSegment segment
  let joined := (neighborsIn added segment.layer segment.interfaces).foldl addNeighbor added
  have size : before.segments.size < joined.segments.size := by
    dsimp only [joined]
    rw [segments_foldl_addNeighbor]
    exact Nat.lt_of_lt_of_eq (Nat.lt_succ_self _) (Array.size_push segment).symm
  have start : joined.Recorded := by
    refine recorded.congr (sameRecords.trans (sameRecords_addSegment before bare) ?_)
    exact sameRecords.foldl (fun current => current) sameRecords_addNeighbor _ _
  let steady (current : Network) : Prop :=
    current.Recorded ∧ before.segments.size < current.segments.size
  refine (outcome_forM_induction steady (fun request _ current next step holds => ?_) run
    ⟨start, size⟩).1
  obtain ⟨definition, _, found, act⟩ := outcome_bind_eq_ok.mp step
  obtain ⟨_, rfl⟩ := outcome_require_eq_ok.mp found
  obtain rfl := outcome_modify_eq_ok.mp act
  exact ⟨applyClass_records holds.2 definition holds.1,
    (size_segments_applyClass _ _ definition).symm ▸ holds.2⟩

end Segments

namespace Network

open Stage

variable {config : Config} {network : Network}

/-- The records tell the same in every searched network. -/
theorem recorded_of_searched (names : (config.networkClasses.map (·.name)).Nodup)
    (searched : Searched config network) : network.Recorded := by
  obtain ⟨topology, extra, built, resolved, made, run, found⟩ := searched
  refine outcome_forM_induction Recorded (fun layer _ before next step recorded => ?_) found
    (recorded_of_resolve names made run)
  rw [Segments.addLayer, outcome_get_bind] at step
  refine outcome_forM_induction Recorded (fun segment listed _ _ step recorded => ?_) step recorded
  refine Segments.addSegment_records ?_ step recorded
  rw [← (Segments.new_of_mem_ofLayer listed).2.2.1]
  rfl

/-- The objects entered under a class are those that have the class, and neither of the
two records repeats anything. -/
theorem entered_iff_mem_classesOf (valid : config.validate = .ok ())
    (searched : Searched config network) (kind : ClassKind) (name : String) (scope : Scope) :
    (scope ∈ network.entered kind name ↔
        scope.classKind? = some kind ∧ name ∈ network.classesOf scope) ∧
      (network.entered kind name).Nodup ∧ (network.classesOf scope).Nodup := by
  have recorded := recorded_of_searched (Config.networkClassNames_nodup valid) searched
  refine ⟨?_, ?_, recorded.classesOnce scope⟩
  · rw [← recorded.entered kind name scope]
    exact mem_entered
  · refine List.Nodup.map_on (fun left leftListed right rightListed same => ?_)
      (recorded.indexOnce.filter _)
    have leftSame := (List.mem_filter.mp leftListed).2
    have rightSame := (List.mem_filter.mp rightListed).2
    simp only [Bool.and_eq_true, decide_eq_true_eq, beq_iff_eq] at leftSame rightSame
    exact Prod.ext (leftSame.1.trans rightSame.1.symm)
      (Prod.ext (leftSame.2.trans rightSame.2.symm) same)

end Network

namespace Branch

open Network

/-- Two subnets for interfaces, loopbacks, management, members, neighbors, records and
classes of every kind. -/
def config : Config where
  name := "branch"
  layers := [layer]
  management := some { name := "oob", range := "192.168.0.0/24" }
  rules := [{ name := "user", source := some { kind := .range, start := 1, stop := 2 } }]
  networkClasses := [{ name := "wan" }]
  nodeClasses := [{ name := "host"
                    primary := true
                    policies := ["loop"]
                    params := ["user"]
                    interfacePolicies := ["lan"]
                    members := [{ node := "host" }]
                    managementClass := some "console" }]
  interfaceClasses := [{ name := "all", neighbors := [{ layer := "ip" }] }, { name := "console" }]
  connectionClasses := [{ name := "trunk" }]
  groupClasses := [{ name := "site" }]
  segmentClasses := [{ name := "voice", layer := "ip" }]
where
  /-- The layer of all connections. -/
  layer : Layer :=
    { name := "ip"
      connectsByDefault := true
      policies := [{ name := "lan", range := "10.0.0.0/16", subnetLength := 24 },
        { name := "loop", kind := .loopback, range := "10.9.0.0/24" }] }

/-- Two linked hosts of one group.  A label addresses a class to the segment. -/
def topology : Topology where
  nodes := [{ name := "a", labels := ["host"] }, { name := "b", labels := ["host"] }]
  edges := [{ source := "a", target := "b", labels := ["trunk", "segment#voice"] }]
  groups := [{ name := "g", labels := ["site"], nodes := ["a", "b"] }]

/-- The network of the topology. -/
def built : Network := (ofTopology config topology).toOption.getD {}

/-- The network after resolution. -/
def resolved : Network := ((resolve config {}).outcome built).2

/-- The network with its segments. -/
def searched : Network := ((Segments.addAll config).outcome resolved).2

/-- The configuration of the clinic is valid. -/
theorem config_valid : config.validate = .ok () := by decide +kernel

theorem built_of_topology : ofTopology config topology = .ok built :=
  Outcome.eq_ok_of_isOk {} (by decide +kernel)

theorem resolved_of_built : (resolve config {}).outcome built = (.ok (), resolved) :=
  Stage.outcome_eq_ok (by decide +kernel)

theorem searched_of_resolved : (Segments.addAll config).outcome resolved = (.ok (), searched) :=
  Stage.outcome_eq_ok (by decide +kernel)

/-- The topology is resolved and searched without error. -/
theorem searched_of_topology : Searched config searched :=
  ⟨topology, {}, built, resolved, built_of_topology, resolved_of_built, searched_of_resolved⟩

theorem searched_entered :
    searched.entered .interface "console" = [.interface 2, .interface 3] ∧
      searched.entered .segment "voice" = [.segment 0] ∧
      searched.entered .network "wan" = [.network] := by
  decide +kernel

/-- The two management interfaces have their class, and the segment has the class of the
label. -/
theorem console_and_voice_recorded :
    config.validate = .ok () ∧ Searched config searched ∧
      "console" ∈ searched.classesOf (.interface 2) ∧
      "voice" ∈ searched.classesOf (.segment 0) ∧ "wan" ∈ searched.classesOf .network := by
  obtain ⟨console, voice, wan⟩ := searched_entered
  have recorded := entered_iff_mem_classesOf config_valid searched_of_topology
  refine ⟨config_valid, searched_of_topology, ?_, ?_, ?_⟩
  · exact ((recorded .interface "console" (.interface 2)).1.mp (by simp [console])).2
  · exact ((recorded .segment "voice" (.segment 0)).1.mp (by simp [voice])).2
  · exact ((recorded .network "wan" .network).1.mp (by simp [wan])).2

end Branch

end TopoPlan
