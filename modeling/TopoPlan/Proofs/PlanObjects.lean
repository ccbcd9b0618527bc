import TopoPlan.Proofs.CompilationFailures
import TopoPlan.Proofs.Network.DistinctNames
import TopoPlan.Proofs.Rule.KeyOrder

/-!
# Objects of a plan

A plan has one object for each object of the network, in the order of the views.  Keys of
objects do not change once segments are searched: `sortKey_congr_all` says on what they depend.
-/

namespace TopoPlan

namespace Compiler

/-- Extensions add node classes and leave the rest of a configuration alone. -/
theorem exists_nodeClasses_of_ofConfig {config : Config} {compiler : Compiler}
    (made : ofConfig config = .ok compiler) :
    ∃ nodeClasses, compiler.config = { config with nodeClasses } := by
  obtain ⟨extensions, _, made⟩ := Outcome.bind_eq_ok.mp made
  obtain ⟨_, _, made⟩ := Outcome.bind_eq_ok.mp made
  cases made
  let motive (current : Config) : Prop := ∃ nodeClasses, current = { config with nodeClasses }
  refine List.foldlRecOn (motive := motive) extensions _ ⟨config.nodeClasses, rfl⟩ ?_
  rintro _ ⟨nodeClasses, rfl⟩ extension _
  cases extension with
  | builtin => exact ⟨nodeClasses, rfl⟩
  | containerlab =>
    unfold Extension.extendConfig Containerlab.extendConfig
    dsimp only
    split
    · exact ⟨nodeClasses, rfl⟩
    · exact ⟨_, rfl⟩

end Compiler

namespace Network

/-- Objects refer to each other and are named as before. -/
structure SameTitles (before after : Network) : Prop where
  references : SameReferences before after
  keys : SameKeys before after
  interface : ∀ id, (after.interface id).name = (before.interface id).name

/-- The frame of stages that leave references and names alone. -/
def sameTitles : Frame where
  holds := SameTitles
  refl network := ⟨.refl network, sameKeys.refl network, fun _ => rfl⟩
  trans first second := ⟨first.references.trans second.references,
    sameKeys.trans first.keys second.keys,
    fun id => (second.interface id).trans (first.interface id)⟩

/-- Values are no names. -/
theorem sameTitles_valueless : sameTitles.Valueless where
  parameters network scope change := by
    refine ⟨(untouched_valueless.parameters network scope change).1.1,
      sameKeys_valueless.parameters network scope change, fun id => ?_⟩
    cases scope with
    | interface => exact network.interface_updateInterface_field (fun _ => by rfl) _ id
    | _ => rfl
  subnet network id subnet change := ⟨(untouched_valueless.subnet network id subnet change).1.1,
    sameKeys_valueless.subnet network id subnet change, fun _ => rfl⟩
  nodes network change := ⟨(untouched_valueless.nodes network change).1.1,
    sameKeys_valueless.nodes network change, fun _ => rfl⟩
  attachments network change := ⟨(untouched_valueless.attachments network change).1.1,
    sameKeys_valueless.attachments network change, fun _ => rfl⟩

/-- Records are no keys. -/
theorem sameKeys_addAttachment (network : Network) (added : Attachment) :
    SameKeys network (network.addAttachment added) := by
  let pushed : Network := { network with attachments := network.attachments.push added }
  have keys : SameKeys network pushed := { sameKeys.refl network with }
  unfold addAttachment
  dsimp only
  split
  case h_1 => exact { keys with
    nodeCount := pushed.size_nodes_updateNode _ _
    node := pushed.node_updateNode_field (fun _ => by rfl) _ }
  case h_3 => exact { keys with
    connectionCount := pushed.size_connections_updateConnection _ _
    connection := pushed.connection_updateConnection_field (fun _ => by rfl) _ }
  case h_4 => exact { keys with
    groupCount := Array.size_modify
    group := pushed.group_updateGroup_field (fun _ => by rfl) _ }
  case h_5 => exact { keys with
    segmentCount := Array.size_modify
    segment := pushed.segment_updateSegment_field (fun _ => by rfl) _ }
  all_goals exact { keys with }

/-- Records are no names. -/
theorem sameTitles_addAttachment (network : Network) (added : Attachment) :
    SameTitles network (network.addAttachment added) := by
  refine ⟨sameReferences_addAttachment network added, network.sameKeys_addAttachment added,
    fun id => ?_⟩
  unfold addAttachment
  dsimp only
  split
  case h_2 => exact interface_updateInterface_field _ (fun _ => by rfl) _ id
  all_goals rfl

variable {before after : Network}

/-- The same references list the same scopes. -/
theorem SameReferences.scopes (same : SameReferences before after) :
    after.scopes = before.scopes := by
  have nodes : after.nodes.size = before.nodes.size := same.sameLinks.nodeCount
  have connections : after.connections.size = before.connections.size :=
    same.sameLinks.connectionCount
  have segments : after.segments.size = before.segments.size := congrArg Counts.segments same.bulk
  have members : after.members.size = before.members.size := congrArg Counts.members same.bulk
  have groups : after.groups.size = before.groups.size := congrArg Counts.groups same.bulk
  have neighbors (id : InterfaceId) :
      (after.interface id).neighbors = (before.interface id).neighbors :=
    congrArg (·.2.2.1) (same.interface id)
  have ports (id : InterfaceId) : after.interfaceScopes id = before.interfaceScopes id := by
    rw [interfaceScopes, neighbors]
    rfl
  have places (id : NodeId) : after.nodeScopes id = before.nodeScopes id := by
    rw [nodeScopes, same.sameLinks.ports, funext ports]
    rfl
  rw [Network.scopes, nodeIds, connectionIds, segmentIds, memberIds, groupIds, nodes, connections,
    segments, members, groups, funext places]
  rfl

/-- The same titles give interfaces the same keys. -/
theorem SameTitles.interfaceKey (same : SameTitles before after) (id : InterfaceId) :
    after.interfaceKey id = before.interfaceKey id := by
  unfold Network.interfaceKey
  dsimp only
  rw [same.keys.node, same.interface, same.references.sameLinks.node]

/-- The key of an object depends on names and references alone. -/
theorem SameTitles.sortKey (same : SameTitles before after) (scope : Scope) :
    after.sortKey scope = before.sortKey scope := by
  have within (steps : Nat) (scope : Scope) :
      after.keyWithin steps scope = before.keyWithin steps scope := by
    fun_induction Network.keyWithin before steps scope with
    | case1 => rw [Network.keyWithin]
    | case2 _ id => rw [Network.keyWithin, same.keys.node]
    | case3 _ id => rw [Network.keyWithin, same.interfaceKey]
    | case4 _ id => rw [Network.keyWithin, same.keys.connection]
    | case5 _ id => rw [Network.keyWithin, same.keys.group]
    | case6 _ id => rw [Network.keyWithin, same.keys.segment]
    | case7 _ id neighbor =>
      have ends := same.references.neighbor id
      have self : (after.neighbor id).self = (before.neighbor id).self := congrArg (·.1) ends
      have peer : (after.neighbor id).peer = (before.neighbor id).peer := congrArg (·.2.1) ends
      rw [Network.keyWithin, same.interfaceKey, same.interfaceKey, self, peer]
    | case8 id => rw [Network.keyWithin]
    | case9 steps id member referrer target =>
      have ends := same.references.member id
      have first : (after.member id).referrer = (before.member id).referrer :=
        congrArg (·.1) ends
      have second : (after.member id).member = (before.member id).member :=
        congrArg (·.2) ends
      rw [Network.keyWithin, first, second, referrer, target]
  have count : after.members.size = before.members.size :=
    congrArg Counts.members same.references.bulk
  rw [Network.sortKey, Network.sortKey, count, within]

end Network

namespace View

open Network

/-- Views are built of every object once. -/
theorem order_perm_of_build {network viewed : Network} {order : List Scope}
    (views : build.outcome network = (.ok order, viewed)) : order.Perm network.scopes := by
  obtain ⟨all, told, rfl, _⟩ := build_eq_ok views
  exact ScopeOrder.order_perm (all_eq_ok told).2.1

end View

namespace Plan

open Network

/-- What is written of an object of the network. -/
structure Shows (config : Config) (network : Network) (scope : Scope) (object : PlanObject) :
    Prop where
  kind : object.kind = scope.kind
  name : object.name = nameOf config network scope
  params : object.params = (network.parametersOf scope).relative
  records : object.records = recordsOf network scope

/-- An object that is made shows its scope. -/
theorem shows_of_objectOf {config : Config} {index : TemplateIndex} {network : Network}
    {scope : Scope} {object : PlanObject}
    (made : objectOf config index network scope = .ok object) :
    Shows config network scope object := by
  obtain ⟨templates, _, made⟩ := Outcome.bind_eq_ok.mp made
  cases made
  exact ⟨rfl, rfl, rfl, rfl⟩

/-- Every object of the order is shown. -/
theorem exists_shown {config : Config} {network : Network} {order : List Scope}
    {objects : List PlanObject} (shown : List.Forall₂ (Shows config network) order objects)
    {scope : Scope} (listed : scope ∈ order) :
    ∃ object ∈ objects, Shows config network scope object := by
  induction shown with
  | nil => cases listed
  | cons shows _ inductionHypothesis =>
    rcases List.mem_cons.mp listed with rfl | later
    · exact ⟨_, List.mem_cons_self, shows⟩
    · obtain ⟨object, member, shows⟩ := inductionHypothesis later
      exact ⟨object, List.mem_cons_of_mem _ member, shows⟩

/-- Every object that is shown is one of the order. -/
theorem exists_scope_shown {config : Config} {network : Network} {order : List Scope}
    {objects : List PlanObject} (shown : List.Forall₂ (Shows config network) order objects)
    {object : PlanObject} (listed : object ∈ objects) :
    ∃ scope ∈ order, Shows config network scope object := by
  induction shown with
  | nil => cases listed
  | cons shows _ inductionHypothesis =>
    rcases List.mem_cons.mp listed with rfl | later
    · exact ⟨_, List.mem_cons_self, shows⟩
    · obtain ⟨scope, member, shows⟩ := inductionHypothesis later
      exact ⟨scope, List.mem_cons_of_mem _ member, shows⟩

/-- The network has the name of the configuration, and the other objects have their keys. -/
theorem nameOf_congr {config other : Config} (name : other.name = config.name)
    {before after : Network} (same : SameTitles before after) (scope : Scope) :
    nameOf other after scope = nameOf config before scope := by
  cases scope with
  | network => exact name
  | _ => exact same.sortKey _

/-- A plan shows the objects of a network with its views, each once. -/
theorem exists_of_compile {config : Config} {files : TextFiles} {topology : Topology} {plan : Plan}
    (run : compile config files topology = .ok plan) :
    ∃ compiler network order viewed, Compiler.ofConfig config = .ok compiler ∧
      compiler.Reached files topology .extended network ∧
      View.build.outcome network = (.ok order, viewed) ∧
      order.Perm network.scopes ∧
      List.Forall₂ (Shows compiler.config viewed) order plan.objects := by
  obtain ⟨compiler, made, run⟩ := Outcome.bind_eq_ok.mp run
  obtain ⟨⟨viewed, order⟩, compiled, run⟩ := Outcome.bind_eq_ok.mp run
  obtain ⟨index, _, run⟩ := Outcome.bind_eq_ok.mp run
  obtain ⟨objects, shown, run⟩ := Outcome.bind_eq_ok.mp run
  cases run
  obtain ⟨network, reached, views⟩ := Compiler.exists_extended_of_resolve compiled
  exact ⟨compiler, network, order, viewed, made, reached, views, View.order_perm_of_build views,
    (Outcome.mapM_eq_ok shown).imp fun _ _ => shows_of_objectOf⟩

/-- There is a plan of a network without neighbors and members when views are built, templates
are ordered, and extensions have what they need. -/
theorem exists_plan {config : Config} {compiler : Compiler} {files : TextFiles}
    {topology : Topology} {network viewed : Network} {order : List Scope} {index : TemplateIndex}
    (made : Compiler.ofConfig config = .ok compiler)
    (reached : compiler.Reached files topology .extended network)
    (views : View.build.outcome network = (.ok order, viewed))
    (checked : compiler.check viewed = .ok ())
    (indexed : TemplateIndex.ofConfig compiler.config = .ok index)
    (kinds : ∀ scope ∈ network.scopes, scope.classKind?.isSome = true) :
    ∃ plan, compile config files topology = .ok plan ∧
      List.Forall₂ (Shows compiler.config viewed) order plan.objects := by
  have each : ∀ scope ∈ order, ∃ object,
      objectOf compiler.config index viewed scope = .ok object := by
    intro scope listed
    have ofKind := kinds scope ((View.order_perm_of_build views).mem_iff.mp listed)
    cases scope with
    | neighbor | member => cases ofKind
    | _ => exact ⟨_, rfl⟩
  obtain ⟨objects, shown⟩ := Outcome.exists_mapM each
  refine ⟨_, Outcome.bind_eq_ok.mpr ⟨compiler, made, Outcome.bind_eq_ok.mpr ⟨(viewed, order),
    Compiler.resolve_of_extended reached views checked, Outcome.bind_eq_ok.mpr ⟨index, indexed,
      Outcome.bind_eq_ok.mpr ⟨objects, shown, rfl⟩⟩⟩⟩, ?_⟩
  exact (Outcome.mapM_eq_ok shown).imp fun _ _ => shows_of_objectOf

end Plan

end TopoPlan
