import TopoPlan.Network.Resolution
import TopoPlan.Proofs.Network.Objects
import TopoPlan.Proofs.Network.Stages

/-!
# What resolution keeps

Classes and names change a part of an object only.  What they never change of it is
called fixed, and a frame is tolerant when it looks at nothing else.  Management
interfaces and members are added after that.  An invariant is durable when it tolerates
the former and is kept by the latter; the main statement, `resolve_within`, is that a
resolution keeps it.
-/

namespace TopoPlan

/-- What classes and names leave alone of a node. -/
def Node.fixed (node : Node) :=
  (node.labels, node.interfaces, node.groups, node.managementInterface, node.members,
    node.attachments)

/-- What classes and names leave alone of an interface. -/
def Interface.fixed (interface : Interface) :=
  (interface.node, interface.connection, interface.labels, interface.neighbors,
    interface.members, interface.attachments, interface.isManagement)

/-- What classes and names leave alone of a connection. -/
def Connection.fixed (connection : Connection) :=
  (connection.source, connection.target, connection.labels, connection.members,
    connection.attachments)

/-- What classes leave alone of a group. -/
def Group.fixed (group : Group) :=
  (group.name, group.labels, group.nodes, group.attachments)

/-- A frame that does not look at what classes and names change. -/
structure Frame.Tolerant (frame : Frame) : Prop where
  node : ∀ network id {change}, (∀ node : Node, (change node).fixed = node.fixed) →
    frame.holds network (network.updateNode id change)
  interface : ∀ network id {change},
    (∀ interface : Interface, (change interface).fixed = interface.fixed) →
      frame.holds network (network.updateInterface id change)
  connection : ∀ network id {change},
    (∀ connection : Connection, (change connection).fixed = connection.fixed) →
      frame.holds network (network.updateConnection id change)
  group : ∀ network id {change}, (∀ group : Group, (change group).fixed = group.fixed) →
    frame.holds network (network.updateGroup id change)
  enter : ∀ network kind className scope,
    frame.holds network (network.enter kind className scope)
  parameters : ∀ (network : Network) parameters,
    frame.holds network { network with parameters }

/-- A frame that does not look at names. -/
structure Frame.Nameless (frame : Frame) : Prop where
  node : ∀ network id name,
    frame.holds network (network.updateNode id fun node => { node with name })
  interface : ∀ network id name,
    frame.holds network (network.updateInterface id fun interface => { interface with name })
  connection : ∀ network id name,
    frame.holds network (network.updateConnection id fun connection => { connection with name })

/-- Names are among what a tolerant frame does not look at. -/
theorem Frame.Tolerant.nameless {frame : Frame} (tolerant : frame.Tolerant) : frame.Nameless where
  node network id _ := tolerant.node network id fun _ => rfl
  interface network id _ := tolerant.interface network id fun _ => rfl
  connection network id _ := tolerant.connection network id fun _ => rfl

/-- A frame that is weaker than a tolerant one is tolerant. -/
theorem Frame.Tolerant.mono {frame other : Frame} (tolerant : frame.Tolerant)
    (weaker : ∀ before after, frame.holds before after → other.holds before after) :
    other.Tolerant where
  node network id _ keeps := weaker _ _ (tolerant.node network id keeps)
  interface network id _ keeps := weaker _ _ (tolerant.interface network id keeps)
  connection network id _ keeps := weaker _ _ (tolerant.connection network id keeps)
  group network id _ keeps := weaker _ _ (tolerant.group network id keeps)
  enter network kind className scope := weaker _ _ (tolerant.enter network kind className scope)
  parameters network parameters := weaker _ _ (tolerant.parameters network parameters)

/-- Two invariants that are tolerant are so together. -/
theorem Frame.Tolerant.and {first second : Network → Prop}
    (left : (Frame.ofInvariant first).Tolerant) (right : (Frame.ofInvariant second).Tolerant) :
    (Frame.ofInvariant fun network => first network ∧ second network).Tolerant where
  node network id _ keeps := And.imp (left.node network id keeps) (right.node network id keeps)
  interface network id _ keeps :=
    And.imp (left.interface network id keeps) (right.interface network id keeps)
  connection network id _ keeps :=
    And.imp (left.connection network id keeps) (right.connection network id keeps)
  group network id _ keeps := And.imp (left.group network id keeps) (right.group network id keeps)
  enter network kind className scope :=
    And.imp (left.enter network kind className scope) (right.enter network kind className scope)
  parameters network parameters :=
    And.imp (left.parameters network parameters) (right.parameters network parameters)

/-- Add the management interface of a node and tell the node about it. -/
def Network.addManagement (network : Network) (node : NodeId) (name className : String) :
    Network :=
  (network.addInterface (Management.interfaceOf network node name className)).updateNode node
    fun found => { found with managementInterface := some network.interfaces.size }

/-- An invariant of networks of so many nodes that a resolution keeps. -/
structure Network.Durable (count : Nat) (invariant : Network → Prop) : Prop where
  tolerant : (Frame.ofInvariant invariant).Tolerant
  nodeCount : ∀ network, invariant network → network.nodes.size = count
  management : ∀ network node name className, node < count → invariant network →
    invariant (network.addManagement node name className)
  member : ∀ network member, member.referrer ∈ Membership.referrers network →
    (member.kind, member.className, member.member) ∈ network.classIndex →
      invariant network → invariant (network.addMember member)

end TopoPlan

namespace TopoPlan.ClassEffects

open Network Stage

variable {config : Config}

/-- Giving policies is within a frame when the update is. -/
theorem givePolicies_within {frame : Frame} {kind : ClassKind} {className : String}
    {update : (Table String → Table String) → Network → Network} {policies : List String}
    (keeps : ∀ change network, frame.holds network (update change network)) :
    Within frame (givePolicies config kind className update policies) :=
  within_forM fun _ _ => within_bind (within_ofExcept _) fun _ => within_modify fun _ => keeps _ _

/-- The check of a layer keeps every frame. -/
theorem checkLayer_within {frame : Frame} (context layer : String) :
    Within frame (checkLayer config context layer) :=
  within_ite (fun _ => within_pure _) fun _ => within_throw _

/-- The check of a class that is not primary keeps every frame. -/
theorem checkSecondary_within {frame : Frame} (kind : ClassKind) (className : String)
    (stem managementClass : Option String) (tinet clab : Table Value) :
    Within frame (checkSecondary kind className stem managementClass tinet clab) := by
  unfold checkSecondary
  refine within_ite (fun _ => within_throw _) fun _ => ?_
  refine within_ite (fun _ => within_throw _) fun _ => ?_
  exact within_ite (fun _ => within_throw _) fun _ => within_pure _

/-- The check of a primary class keeps every frame. -/
theorem checkFirstPrimary_within {frame : Frame} (kind : ClassKind) (object : String)
    (first : Option String) (className : String) :
    Within frame (checkFirstPrimary kind object first className) := by
  cases first
  · exact within_pure _
  · exact within_throw _

/-- The check of the primary classes of a connection keeps every frame. -/
theorem checkConnectionPrimary_within {frame : Frame} (id : InterfaceId) (object : String)
    (definition : InterfaceClass) :
    Within frame (checkConnectionPrimary id object definition) :=
  within_bind within_get fun _ =>
    within_ite (fun _ => checkFirstPrimary_within _ _ _ _) fun _ => within_pure _

section Classes

variable {frame : Frame} (tolerant : frame.Tolerant)

include tolerant

/-- Changing a node, but nothing that is fixed. -/
theorem modifyNode_within {id : NodeId} {change : Node → Node}
    (keeps : ∀ node, (change node).fixed = node.fixed) :
    Within frame (modify fun network => network.updateNode id change) :=
  within_modify fun network => tolerant.node network id keeps

/-- Changing an interface, but nothing that is fixed. -/
theorem modifyInterface_within {id : InterfaceId} {change : Interface → Interface}
    (keeps : ∀ interface, (change interface).fixed = interface.fixed) :
    Within frame (modify fun network => network.updateInterface id change) :=
  within_modify fun network => tolerant.interface network id keeps

/-- Changing a connection, but nothing that is fixed. -/
theorem modifyConnection_within {id : ConnectionId} {change : Connection → Connection}
    (keeps : ∀ connection, (change connection).fixed = connection.fixed) :
    Within frame (modify fun network => network.updateConnection id change) :=
  within_modify fun network => tolerant.connection network id keeps

/-- Entering an object under a class. -/
theorem enter_within (kind : ClassKind) (className : String) (scope : Scope) :
    Within frame (modify fun network => network.enter kind className scope) :=
  within_modify fun network => tolerant.enter network kind className scope

/-- A primary class of a node keeps a tolerant frame. -/
theorem makePrimaryNode_within (id : NodeId) (object : String) (definition : NodeClass) :
    Within frame (makePrimaryNode config id object definition) := by
  unfold makePrimaryNode
  refine within_bind within_get fun network => ?_
  refine within_bind (checkFirstPrimary_within _ _ _ _) fun _ => ?_
  refine within_bind (modifyNode_within tolerant fun _ => rfl) fun _ => ?_
  have platform : Within frame (modify fun network => network.updateNode id fun node =>
      { node with tinet := definition.tinet, clab := definition.clab }) :=
    modifyNode_within tolerant fun _ => rfl
  split
  case h_1 => exact platform
  case h_2 name _ =>
    have management : Within frame (modify fun network => network.updateNode id fun node =>
        { node with managementClass := some name }) :=
      modifyNode_within tolerant fun _ => rfl
    exact within_ite (fun _ => within_bind (within_throw _) fun _ =>
        within_bind management fun _ => platform)
      fun _ => within_bind management fun _ => platform

/-- A class of a node keeps a tolerant frame. -/
theorem applyNodeClass_within (id : NodeId) (definition : NodeClass) :
    Within frame (applyNodeClass config id definition) := by
  unfold applyNodeClass
  refine within_bind within_get fun network => ?_
  refine within_bind (enter_within tolerant _ _ _) fun _ => ?_
  refine within_bind within_get fun entered => ?_
  refine within_bind (within_forM fun policy _ => ?_) fun _ => ?_
  · refine within_bind (within_forM fun interface _ => givePolicies_within fun change network =>
      tolerant.interface network interface fun _ => rfl) fun _ => ?_
    exact within_ite (fun _ => givePolicies_within fun _ network => frame.refl network)
      fun _ => within_pure _
  refine within_bind (modifyNode_within tolerant fun _ => rfl) fun _ => ?_
  refine within_bind (givePolicies_within fun change network =>
    tolerant.node network id fun _ => rfl) fun _ => ?_
  refine within_bind (modifyNode_within tolerant fun _ => rfl) fun _ => ?_
  have values : Within frame (modify fun network => network.updateNode id fun node =>
      { node with parameters := node.parameters.addAll (classParameters definition.values) }) :=
    modifyNode_within tolerant fun _ => rfl
  exact within_ite
    (fun _ => within_bind (makePrimaryNode_within tolerant _ _ _) fun _ => values)
    fun _ => within_bind (checkSecondary_within _ _ _ _ _ _) fun _ => values

/-- The visit to a node keeps a tolerant frame. -/
theorem resolveNode_within (extra : List String) (id : NodeId) :
    Within frame (resolveNode config extra id) := by
  unfold resolveNode
  refine within_bind within_get fun network => ?_
  refine within_bind (modifyNode_within tolerant fun _ => rfl) fun _ => ?_
  refine within_forM fun name _ => ?_
  refine within_bind within_get fun network => ?_
  refine within_bind (within_require _ _) fun definition => ?_
  exact within_ite (fun _ => applyNodeClass_within tolerant id definition) fun _ => within_pure _

/-- A class of a connection keeps a tolerant frame. -/
theorem applyConnectionClass_within (id : ConnectionId) (object : String)
    (definition : ConnectionClass) :
    Within frame (applyConnectionClass config id object definition) := by
  unfold applyConnectionClass
  refine within_bind (enter_within tolerant _ _ _) fun _ => ?_
  refine within_bind (within_forM fun layer _ => checkLayer_within _ layer) fun _ => ?_
  refine within_bind (givePolicies_within fun _ network => frame.refl network) fun _ => ?_
  refine within_bind (modifyConnection_within tolerant fun _ => rfl) fun _ => ?_
  have values : Within frame (modify fun network => network.updateConnection id fun connection =>
      { connection with
        parameters := connection.parameters.addAll (classParameters definition.values) }) :=
    modifyConnection_within tolerant fun _ => rfl
  refine within_ite (fun _ => within_bind within_get fun network => ?_)
    fun _ => within_bind (checkSecondary_within _ _ _ _ _ _) fun _ => values
  refine within_bind (checkFirstPrimary_within _ _ _ _) fun _ => ?_
  exact within_bind (modifyConnection_within tolerant fun _ => rfl) fun _ => values

/-- The visit to a connection keeps a tolerant frame. -/
theorem resolveConnection_within (extra : List String) (id : ConnectionId) :
    Within frame (resolveConnection config extra id) := by
  unfold resolveConnection
  refine within_bind within_get fun start => ?_
  refine within_bind (modifyConnection_within tolerant fun _ => rfl) fun _ => ?_
  refine within_forM fun name _ => ?_
  refine within_bind (within_require _ _) fun definition => ?_
  refine within_bind within_get fun network => ?_
  exact within_ite (fun _ => applyConnectionClass_within tolerant id _ definition)
    fun _ => within_pure _

/-- Layers of neighbors given to an interface keep a tolerant frame. -/
theorem giveNeighborLayers_within (id : InterfaceId) (context : String)
    (neighbors : List NeighborClass) :
    Within frame (giveNeighborLayers config id context neighbors) :=
  within_forM fun _ _ => within_bind (checkLayer_within _ _) fun _ =>
    modifyInterface_within tolerant fun _ => rfl

/-- Policies given to an interface keep a tolerant frame. -/
theorem giveInterfacePolicies_within (kind : ClassKind) (className : String)
    (id : InterfaceId) (policies : List String) :
    Within frame (giveInterfacePolicies config kind className id policies) :=
  givePolicies_within fun _ network =>
    tolerant.interface network id fun _ => rfl

/-- Requests given to an interface keep a tolerant frame. -/
theorem giveRequests_within (id : InterfaceId) (params : List String) :
    Within frame (giveRequests config id params) :=
  modifyInterface_within tolerant fun _ => rfl

/-- Declarations given to an interface keep a tolerant frame. -/
theorem giveDeclarations_within (id : InterfaceId) (className : String)
    (members : List MemberClass) : Within frame (giveDeclarations id className members) :=
  modifyInterface_within tolerant fun _ => rfl

/-- The classes of a connection given to its ends keep a tolerant frame. -/
theorem applyConnectionToEnd_within (id : InterfaceId) (connection : Connection) :
    Within frame (applyConnectionToEnd config id connection) := by
  unfold applyConnectionToEnd
  refine within_bind (within_forM fun name _ => ?_)
    fun _ => modifyInterface_within tolerant fun _ => rfl
  split
  case h_1 definition _ =>
    unfold applyConnectionClassToEnd
    refine within_bind (giveInterfacePolicies_within tolerant _ _ _ _) fun _ => ?_
    refine within_bind (giveRequests_within tolerant _ _) fun _ => ?_
    refine within_bind (giveNeighborLayers_within tolerant _ _ _) fun _ => ?_
    exact giveDeclarations_within tolerant _ _ _
  case h_2 => exact within_pure _

/-- A connection that is widened keeps a tolerant frame. -/
theorem widenConnection_within (id : InterfaceId) (definition : InterfaceClass) :
    Within frame (widenConnection id definition) := by
  refine within_bind within_get fun network => ?_
  split
  · exact modifyConnection_within tolerant fun _ => rfl
  · exact within_pure _

/-- A primary class of an interface keeps a tolerant frame. -/
theorem makePrimaryInterface_within (id : InterfaceId) (object : String)
    (definition : InterfaceClass) : Within frame (makePrimaryInterface id object definition) :=
  within_bind within_get fun _ => within_bind (checkFirstPrimary_within _ _ _ _) fun _ =>
    modifyInterface_within tolerant fun _ => rfl

/-- A class of an interface keeps a tolerant frame. -/
theorem applyInterfaceClass_within (id : InterfaceId) (object : String)
    (definition : InterfaceClass) :
    Within frame (applyInterfaceClass config id object definition) := by
  unfold applyInterfaceClass
  refine within_bind (enter_within tolerant _ _ _) fun _ => ?_
  refine within_bind (within_forM fun layer _ => checkLayer_within _ layer) fun _ => ?_
  refine within_bind (checkConnectionPrimary_within _ _ _) fun _ => ?_
  refine within_bind (widenConnection_within tolerant _ _) fun _ => ?_
  refine within_bind (modifyInterface_within tolerant fun _ => rfl) fun _ => ?_
  refine within_bind (giveInterfacePolicies_within tolerant _ _ _ _) fun _ => ?_
  refine within_bind (giveRequests_within tolerant _ _) fun _ => ?_
  refine within_bind (giveNeighborLayers_within tolerant _ _ _) fun _ => ?_
  refine within_bind (giveDeclarations_within tolerant _ _ _) fun _ => ?_
  have values : Within frame (modify fun network => network.updateInterface id fun interface =>
      { interface with
        parameters := interface.parameters.addAll (classParameters definition.values) }) :=
    modifyInterface_within tolerant fun _ => rfl
  exact within_ite
    (fun _ => within_bind (makePrimaryInterface_within tolerant _ _ _) fun _ => values)
    fun _ => within_bind (checkSecondary_within _ _ _ _ _ _) fun _ => values

/-- A class added to an interface keeps a tolerant frame. -/
theorem addInterfaceClass_within (id : InterfaceId) (name : String) :
    Within frame (addInterfaceClass config id name) := by
  unfold addInterfaceClass
  refine within_bind within_get fun network => ?_
  refine within_bind (within_require _ _) fun definition => ?_
  exact within_ite (fun _ => applyInterfaceClass_within tolerant id _ definition)
    fun _ => within_pure _

/-- The visit to an interface keeps a tolerant frame. -/
theorem resolveInterface_within (extra : List String) (id : InterfaceId) :
    Within frame (resolveInterface config extra id) := by
  unfold resolveInterface
  refine within_bind within_get fun start => ?_
  refine within_bind (modifyInterface_within tolerant fun _ => rfl) fun _ => ?_
  have classes : Within frame ((classNames config .interface (start.interface id).labels extra).forM
      fun name => do
        let network <- get
        if (start.node (start.interface id).node).managementClass == some name &&
            !(network.interface id).isManagement then
          throw (.misplacedManagementClass name (network.describe (.interface id)))
        addInterfaceClass config id name) := by
    refine within_forM fun name _ => within_bind within_get fun network => ?_
    exact within_ite
      (fun _ => within_bind (within_throw _) fun _ => addInterfaceClass_within tolerant _ _)
      fun _ => addInterfaceClass_within tolerant _ _
  split
  · exact within_bind (applyConnectionToEnd_within tolerant _ _) fun _ => classes
  · exact classes

/-- A class of a group keeps a tolerant frame. -/
theorem applyGroupClass_within (id : GroupId) (definition : GroupClass) :
    Within frame (applyGroupClass config id definition) :=
  within_bind (enter_within tolerant _ _ _) fun _ =>
    within_modify fun network => tolerant.group network id fun _ => rfl

/-- The visit to a group keeps a tolerant frame. -/
theorem resolveGroup_within (id : GroupId) : Within frame (resolveGroup config id) := by
  unfold resolveGroup
  refine within_bind within_get fun start => within_forM fun name _ => ?_
  refine within_bind within_get fun network => ?_
  refine within_bind (within_require _ _) fun definition => ?_
  exact within_ite (fun _ => applyGroupClass_within tolerant id definition) fun _ => within_pure _

theorem applyNetworkClass_holds (network : Network) (definition : NetworkClass) :
    frame.holds network (applyNetworkClass network definition) :=
  frame.trans (tolerant.enter network _ _ _) (tolerant.parameters _ _)

/-- The classes of the network keep a tolerant frame. -/
theorem resolveNetwork_within : Within frame (resolveNetwork config) := by
  refine within_modify fun network => ?_
  induction config.networkClasses generalizing network with
  | nil => exact frame.refl network
  | cons definition rest inductionHypothesis =>
    exact frame.trans (applyNetworkClass_holds tolerant network definition) (inductionHypothesis _)

/-- The effects of classes are within every tolerant frame. -/
theorem resolveClasses_within (extra : ExtraClasses) :
    Within frame (resolveClasses config extra) := by
  unfold resolveClasses
  refine within_bind within_get fun _ => ?_
  refine within_bind (within_forM fun id _ => resolveNode_within tolerant _ id) fun _ => ?_
  refine within_bind within_get fun _ => ?_
  refine within_bind (within_forM fun id _ => resolveConnection_within tolerant _ id) fun _ => ?_
  refine within_bind within_get fun _ => ?_
  refine within_bind (within_forM fun id _ => resolveInterface_within tolerant _ id) fun _ => ?_
  refine within_bind within_get fun _ => ?_
  refine within_bind (within_forM fun id _ => resolveGroup_within tolerant id) fun _ => ?_
  exact resolveNetwork_within tolerant

end Classes

end TopoPlan.ClassEffects

namespace TopoPlan.Naming

open Stage

variable {frame : Frame} (nameless : frame.Nameless)

include nameless

/-- Naming a node keeps a tolerant frame. -/
theorem nameNode_holds (keepNames : Bool) (state : NamePool × Network) (id : NodeId) :
    frame.holds state.2 (nameNode keepNames state id).2 := by
  unfold nameNode
  dsimp only
  split
  · exact frame.refl _
  · exact nameless.node state.2 id _

/-- Naming an interface keeps a tolerant frame. -/
theorem nameInterface_holds (state : NamePool × Network) (id : InterfaceId) :
    frame.holds state.2 (nameInterface state id).2 := by
  unfold nameInterface
  dsimp only
  split
  · exact frame.refl _
  · exact nameless.interface state.2 id _

/-- Naming the nodes keeps a tolerant frame. -/
theorem nameNodes_within (config : Config) : Within frame (nameNodes config) := by
  unfold nameNodes
  refine within_get_bind fun network => within_set_bind ?_ ?_
  · exact frame.foldl Prod.snd (nameNode_holds nameless _) (_, network) _
  · split
    · exact within_throw _
    · exact within_pure _

theorem nameInterfacesOf_within (node : NodeId) : Within frame (nameInterfacesOf node) := by
  unfold nameInterfacesOf
  refine within_get_bind fun network => within_set_bind ?_ (within_ofExcept _)
  exact frame.foldl Prod.snd (nameInterface_holds nameless) (_, network) _

/-- Naming the interfaces keeps a tolerant frame. -/
theorem nameInterfaces_within : Within frame nameInterfaces :=
  within_bind within_get fun _ => within_forM fun node _ => nameInterfacesOf_within nameless node

/-- Naming the connections keeps a tolerant frame. -/
theorem nameConnections_within : Within frame nameConnections := by
  refine within_modify fun network => ?_
  refine frame.foldl (fun current => current) (fun current id => ?_) network _
  exact nameless.connection current id _

end TopoPlan.Naming

namespace TopoPlan.Management

open Network Stage

variable {config : Config} {count : Nat} {invariant : Network → Prop}

/-- The management interface of a node that there is keeps a durable invariant. -/
theorem addInterface_within (durable : Durable count invariant) (management : ManagementLayer)
    {node : NodeId} (inside : node < count) (className : String) :
    Within (.ofInvariant invariant) (addInterface config management node className) := by
  have named (id : InterfaceId) (name : String) : Within (.ofInvariant invariant)
      (ClassEffects.addInterfaceClass config id name) :=
    ClassEffects.addInterfaceClass_within durable.tolerant id name
  refine within_get_bind fun network holds => ?_
  have added := durable.management network node management.interface className inside holds
  dsimp only
  split
  case isTrue => exact holds
  case isFalse =>
    rw [outcome_modify_bind]
    split
    · exact within_bind (named _ _) (fun _ => named _ _) _ added
    · exact named _ _ _ added

/-- Management interfaces keep a durable invariant. -/
theorem addInterfaces_within (durable : Durable count invariant) :
    Within (.ofInvariant invariant) (addInterfaces config) := by
  unfold addInterfaces
  split
  case h_1 => exact within_pure _
  case h_2 management _ =>
    refine within_get_bind fun network holds => ?_
    refine (?_ : Within (.ofInvariant invariant) _) network holds
    refine within_forM fun entry wanted => ?_
    obtain ⟨id, listed, found⟩ := List.mem_filterMap.mp wanted
    obtain ⟨className, _, rfl⟩ := Option.map_eq_some_iff.mp found
    have inside : id < count := by
      rw [← durable.nodeCount network holds]
      exact List.mem_range.mp listed
    exact addInterface_within durable management inside className

end TopoPlan.Management

namespace TopoPlan.Membership

open Network Stage

variable {config : Config}

/-- Members do not change which objects may declare members. -/
theorem referrers_addMember (network : Network) (member : Member) :
    referrers (network.addMember member) = referrers network := by
  unfold addMember referrers nodeIds interfaceIds connectionIds
  dsimp only
  split <;> simp [updateNode, updateInterface, updateConnection]

/-- A member leaves the index of classes as it is. -/
@[simp]
theorem classIndex_addMember (network : Network) (member : Member) :
    (network.addMember member).classIndex = network.classIndex := by
  unfold addMember
  dsimp only
  split <;> rfl

/-- The members of a class are the objects entered under it. -/
theorem mem_membersOf {network : Network} {referrer : Scope} {includeSelf : Bool}
    {kind : ClassKind} {className : String} {member : Member}
    (listed : member ∈ membersOf network referrer includeSelf kind className) :
    member.referrer = referrer ∧
      (member.kind, member.className, member.member) ∈ network.classIndex := by
  obtain ⟨target, filtered, rfl⟩ := List.mem_map.mp listed
  exact ⟨rfl, mem_entered.mp (List.mem_filter.mp filtered).1⟩

section Declarations

variable {frame : Frame} {referrer : Scope}
  (adds : ∀ network member, member.referrer = referrer →
    (member.kind, member.className, member.member) ∈ network.classIndex →
      frame.holds network (network.addMember member))

include adds

/-- Members found in the index keep the frame, one after the other. -/
theorem foldl_addMember_holds {network : Network} {members : List Member}
    (entered : ∀ member ∈ members, member.referrer = referrer ∧
      (member.kind, member.className, member.member) ∈ network.classIndex) :
    frame.holds network (members.foldl addMember network) := by
  induction members generalizing network with
  | nil => exact frame.refl network
  | cons member rest inductionHypothesis =>
    obtain ⟨⟨own, known⟩, others⟩ := List.forall_mem_cons.mp entered
    refine frame.trans (adds network member own known) (inductionHypothesis ?_)
    rw [classIndex_addMember]
    exact others

/-- The members of one class keep the frame. -/
theorem addMembers_within (includeSelf : Bool) (kind : ClassKind) (className : String) :
    Within frame (addMembers config referrer includeSelf kind className) := by
  refine within_get_bind fun network => ?_
  dsimp only
  split
  case isTrue => exact frame.refl network
  case isFalse =>
    rw [outcome_set]
    exact foldl_addMember_holds adds fun _ listed => mem_membersOf listed

/-- The members of one declaration keep the frame. -/
theorem addDeclared_within (declaration : String × MemberClass) :
    Within frame (addDeclared config referrer declaration) := by
  unfold addDeclared
  split
  · exact within_bind within_get fun _ => within_throw _
  · exact within_forM fun _ _ => addMembers_within adds _ _ _

end Declarations

/-- Members keep what each of them keeps. -/
theorem build_within {invariant : Network → Prop}
    (adds : ∀ network member, member.referrer ∈ referrers network →
      (member.kind, member.className, member.member) ∈ network.classIndex →
        invariant network → invariant (network.addMember member)) :
    Within (.ofInvariant invariant) (build config) := by
  refine within_get_bind fun start holds => ?_
  -- The objects that declare members are those of the start all the time.
  let steady (current : Network) : Prop := referrers current = referrers start ∧ invariant current
  have each : Within (.ofInvariant steady) ((referrers start).forM fun referrer => do
      (declarationsOf (<- get) referrer).forM (addDeclared config referrer)) := by
    refine within_forM fun referrer listed => within_bind within_get fun _ =>
      within_forM fun declaration _ => addDeclared_within ?_ declaration
    rintro current member rfl entered ⟨same, holds⟩
    rw [← same] at listed
    exact ⟨(referrers_addMember current member).trans same,
      adds current member listed entered holds⟩
  exact (each start ⟨rfl, holds⟩).2

end TopoPlan.Membership

namespace TopoPlan.Network

open Stage

/-- A resolution keeps every durable invariant. -/
theorem resolve_within {config : Config} {extra : ExtraClasses} {count : Nat}
    {invariant : Network → Prop} (durable : Durable count invariant) :
    Within (.ofInvariant invariant) (resolve config extra) := by
  have tolerant := durable.tolerant
  refine within_bind (ClassEffects.resolveClasses_within tolerant extra) fun _ => ?_
  refine within_bind (Naming.nameNodes_within tolerant.nameless config) fun _ => ?_
  refine within_bind (Naming.nameInterfaces_within tolerant.nameless) fun _ => ?_
  refine within_bind (Naming.nameConnections_within tolerant.nameless) fun _ => ?_
  refine within_bind (Management.addInterfaces_within durable) fun _ => ?_
  exact Membership.build_within durable.member

/-- The stages of a resolution, one after the other. -/
theorem resolve_stages {config : Config} {extra : ExtraClasses} {built resolved : Network}
    (run : (resolve config extra).outcome built = (.ok (), resolved)) :
    ∃ classified nodes interfaces named managed,
      (ClassEffects.resolveClasses config extra).outcome built = (.ok (), classified) ∧
        (Naming.nameNodes config).outcome classified = (.ok (), nodes) ∧
        Naming.nameInterfaces.outcome nodes = (.ok (), interfaces) ∧
        Naming.nameConnections.outcome interfaces = (.ok (), named) ∧
        (Management.addInterfaces config).outcome named = (.ok (), managed) ∧
        (Membership.build config).outcome managed = (.ok (), resolved) := by
  obtain ⟨_, classified, classes, run⟩ := outcome_bind_eq_ok.mp run
  obtain ⟨_, nodes, nodeNames, run⟩ := outcome_bind_eq_ok.mp run
  obtain ⟨_, interfaces, interfaceNames, run⟩ := outcome_bind_eq_ok.mp run
  obtain ⟨_, named, connectionNames, run⟩ := outcome_bind_eq_ok.mp run
  obtain ⟨_, managed, management, members⟩ := outcome_bind_eq_ok.mp run
  exact ⟨classified, nodes, interfaces, named, managed, classes, nodeNames, interfaceNames,
    connectionNames, management, members⟩

/-- The parts of a resolution: classes, names, management interfaces and members. -/
theorem resolve_eq_ok {config : Config} {extra : ExtraClasses} {built resolved : Network}
    (run : (resolve config extra).outcome built = (.ok (), resolved)) :
    ∃ classified named managed,
      (ClassEffects.resolveClasses config extra).outcome built = (.ok (), classified) ∧
        (∀ frame : Frame, frame.Nameless → frame.holds classified named) ∧
        (Management.addInterfaces config).outcome named = (.ok (), managed) ∧
        (Membership.build config).outcome managed = (.ok (), resolved) := by
  obtain ⟨classified, _, _, named, managed, classes, nodeNames, interfaceNames, connectionNames,
    management, members⟩ := resolve_stages run
  refine ⟨classified, named, managed, classes, fun frame nameless => ?_, management, members⟩
  have first := (Naming.nameNodes_within nameless config).holds nodeNames
  have second := (Naming.nameInterfaces_within nameless).holds interfaceNames
  have third := (Naming.nameConnections_within nameless).holds connectionNames
  exact frame.trans first (frame.trans second third)

/-- What is durable and holds before a resolution holds after it. -/
theorem Durable.of_resolve {config : Config} {extra : ExtraClasses} {count : Nat}
    {invariant : Network → Prop} {built resolved : Network} (durable : Durable count invariant)
    (run : (resolve config extra).outcome built = (.ok (), resolved)) (start : invariant built) :
    invariant resolved :=
  (resolve_within durable).holds run start

end TopoPlan.Network
