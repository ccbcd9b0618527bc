import Mathlib.Logic.Relation
import TopoPlan.Proofs.Network.Resolution

/-!
# What classes do

A class that acts on an object does one thing to the network: it enters the object
under its name and changes the object, and a class of an interface also widens the
connection of the interface.  The relations `NodeActs`, `ConnectionActs`,
`InterfaceActs` and `GroupActs` say what, and under which conditions; the main
statement, `resolveClasses_steps`, is that the effects of all classes are a sequence
of such steps.
-/

namespace TopoPlan

open ClassEffects

/-- The policies by layer of an object after a class has given its policies. -/
def ClassEffects.givenPolicies (config : Config) (policies : List String)
    (table : Table String) : Table String :=
  policies.foldl
    (fun current policy =>
      match config.policy? policy with
      | some (layer, _) => current.insert layer.name policy
      | none => current)
    table

/-- A node on which a class has acted. -/
def Node.withClass (config : Config) (definition : NodeClass) (node : Node) : Node :=
  { node with
    classes := node.classes ++ [definition.name]
    isVirtual := node.isVirtual || definition.isVirtual
    policies := (givenPolicies config definition.policies node.policies).setAll
      (requestedPolicies config definition.params)
    parameters := (flagRules config definition.params node.parameters).addAll
      (classParameters definition.values)
    memberClasses := node.memberClasses ++ declarations definition.name definition.members
    primaryClass := if definition.primary then some definition.name else node.primaryClass
    stem := if definition.primary then definition.stem.getD node.stem else node.stem
    managementClass :=
      if definition.primary then definition.managementClass.or node.managementClass
      else node.managementClass
    tinet := if definition.primary then definition.tinet else node.tinet
    clab := if definition.primary then definition.clab else node.clab }

/-- A connection on which a class has acted. -/
def Connection.withClass (config : Config) (definition : ConnectionClass)
    (connection : Connection) : Connection :=
  { connection with
    classes := connection.classes ++ [definition.name]
    isVirtual := connection.isVirtual || definition.isVirtual
    parameters := (flagRules config definition.params connection.parameters).addAll
      (classParameters definition.values)
    layers := connection.layers.addAll definition.layers
    memberClasses := connection.memberClasses ++ declarations definition.name definition.members
    primaryClass := if definition.primary then some definition.name else connection.primaryClass
    stem := if definition.primary then definition.stem else connection.stem }

/-- A connection that has the layers and the mark of a class of one of its ends. -/
def Connection.widened (definition : InterfaceClass) (connection : Connection) : Connection :=
  { connection with
    layers := connection.layers.addAll definition.layers
    isVirtual := connection.isVirtual || definition.isVirtual }

/-- What a class of an interface or of its connection requests for the interface. -/
def Interface.withRequests (config : Config) (className : String) (policies params : List String)
    (neighbors : List NeighborClass) (members : List MemberClass) (interface : Interface) :
    Interface :=
  { interface with
    policies := (givenPolicies config policies interface.policies).setAll
      (requestedPolicies config params)
    parameters := flagRules config params interface.parameters
    neighborLayers := interface.neighborLayers.addAll (neighbors.map (·.layer))
    memberClasses := interface.memberClasses ++ declarations className members }

/-- An interface on which a class of its connection has acted. -/
def Interface.withConnectionClass (config : Config) (interface : Interface)
    (definition : ConnectionClass) : Interface :=
  interface.withRequests config definition.name definition.policies definition.params
    definition.neighbors definition.members

/-- An interface on which all classes of its connection have acted. -/
def Interface.withConnection (config : Config) (connection : Connection)
    (interface : Interface) : Interface :=
  let acted := (connection.classes.filterMap config.connectionClass?).foldl
    (Interface.withConnectionClass config) interface
  { acted with
    isVirtual := acted.isVirtual || connection.isVirtual
    stem := connection.stem.getD acted.stem }

/-- An interface on which a class has acted. -/
def Interface.withClass (config : Config) (definition : InterfaceClass)
    (interface : Interface) : Interface :=
  let acted := interface.withRequests config definition.name definition.policies
    definition.params definition.neighbors definition.members
  { acted with
    classes := interface.classes ++ [definition.name]
    isVirtual := interface.isVirtual || definition.isVirtual
    parameters := acted.parameters.addAll (classParameters definition.values)
    primaryClass := if definition.primary then some definition.name else interface.primaryClass
    stem := if definition.primary then definition.stem.getD interface.stem else interface.stem
    tinet := if definition.primary then definition.tinet else interface.tinet
    clab := if definition.primary then definition.clab else interface.clab }

/-- A group on which a class has acted. -/
def Group.withClass (config : Config) (definition : GroupClass) (group : Group) : Group :=
  { group with
    classes := group.classes ++ [definition.name]
    isVirtual := group.isVirtual || definition.isVirtual
    parameters := (flagRules config definition.params group.parameters).addAll
      (classParameters definition.values) }

namespace Network

/-- Give policies to some interfaces. -/
def giveInterfaces (config : Config) (interfaces : List InterfaceId) (policies : List String)
    (network : Network) : Network :=
  policies.foldl
    (fun current policy => interfaces.foldl
      (fun current id => current.updateInterface id fun interface =>
        { interface with policies := givenPolicies config [policy] interface.policies })
      current)
    network

/-- Widen the connection of an interface by a class of the interface. -/
def widen (id : InterfaceId) (definition : InterfaceClass) (network : Network) : Network :=
  match (network.interface id).connection with
  | some found => network.updateConnection found (Connection.widened definition)
  | none => network

/-- A node before its classes act. -/
def startNode (network : Network) (id : NodeId) : Network :=
  network.updateNode id fun node => { node with stem := nodeStem }

/-- A connection before its classes act. -/
def startConnection (config : Config) (network : Network) (id : ConnectionId) : Network :=
  network.updateConnection id fun connection =>
    { connection with layers := connection.layers.addAll config.defaultLayers }

/-- An interface before its own classes act: the classes of its connection have acted. -/
def startInterface (config : Config) (network : Network) (id : InterfaceId) : Network :=
  let interface := network.interface id
  let marked := network.updateInterface id fun found =>
    { found with isVirtual := (network.node interface.node).isVirtual, stem := interfaceStem }
  match interface.connection with
  | some found =>
    marked.updateInterface id (Interface.withConnection config (network.connection found))
  | none => marked

/-- Numbers of objects by kind. -/
structure Counts where
  nodes : Nat
  interfaces : Nat
  connections : Nat
  groups : Nat
  segments : Nat
  neighbors : Nat
  members : Nat
  attachments : Nat

/-- How many objects of each kind there are. -/
def counts (network : Network) : Counts where
  nodes := network.nodes.size
  interfaces := network.interfaces.size
  connections := network.connections.size
  groups := network.groups.size
  segments := network.segments.size
  neighbors := network.neighbors.size
  members := network.members.size
  attachments := network.attachments.size

/-- The frame of stages that add and remove no object. -/
def counted : Frame where
  holds before after := after.counts = before.counts
  refl _ := rfl
  trans first second := second.trans first

/-! Changes of one object, one after the other, are one change. -/

section Changes

variable {network : Network}

/-- Two changes of one entry are one change. -/
theorem modify_modify {α : Type} (entries : Array α) (position : Nat) (first second : α → α) :
    (entries.modify position first).modify position second =
      entries.modify position (second ∘ first) := by
  ext other before after
  · simp only [Array.size_modify]
  · simp only [Array.getElem_modify]
    split <;> rfl

/-- Changing an entry to itself changes nothing. -/
theorem modify_id {α : Type} (entries : Array α) (position : Nat) :
    entries.modify position id = entries := by
  ext other before after
  · exact Array.size_modify
  · simp only [Array.getElem_modify, id, ite_self]

/-- Two changes of one node are one change. -/
theorem updateNode_updateNode (id : NodeId) (first second : Node → Node) :
    (network.updateNode id first).updateNode id second =
      network.updateNode id (second ∘ first) := by
  simp only [updateNode, modify_modify]

/-- Two changes of one interface are one change. -/
theorem updateInterface_updateInterface (id : InterfaceId) (first second : Interface → Interface) :
    (network.updateInterface id first).updateInterface id second =
      network.updateInterface id (second ∘ first) := by
  simp only [updateInterface, modify_modify]

/-- Two changes of one connection are one change. -/
theorem updateConnection_updateConnection (id : ConnectionId)
    (first second : Connection → Connection) :
    (network.updateConnection id first).updateConnection id second =
      network.updateConnection id (second ∘ first) := by
  simp only [updateConnection, modify_modify]

theorem updateNode_id (position : NodeId) : network.updateNode position id = network := by
  rw [updateNode, modify_id]

theorem updateInterface_id (position : InterfaceId) :
    network.updateInterface position id = network := by
  rw [updateInterface, modify_id]

/-- An entry changes the index of classes only. -/
theorem enter_eq (kind : ClassKind) (className : String) (scope : Scope) :
    network.enter kind className scope =
      { network with classIndex := (network.enter kind className scope).classIndex } := by
  unfold enter
  split <;> rfl

/-- An entry in the index leaves the nodes as they are. -/
@[simp]
theorem node_enter (kind : ClassKind) (className : String) (scope : Scope) (id : NodeId) :
    (network.enter kind className scope).node id = network.node id := by
  rw [enter_eq]
  rfl

/-- An entry in the index leaves the interfaces as they are. -/
@[simp]
theorem interface_enter (kind : ClassKind) (className : String) (scope : Scope)
    (id : InterfaceId) :
    (network.enter kind className scope).interface id = network.interface id := by
  rw [enter_eq]
  rfl

/-- An entry in the index leaves the connections as they are. -/
@[simp]
theorem connection_enter (kind : ClassKind) (className : String) (scope : Scope)
    (id : ConnectionId) :
    (network.enter kind className scope).connection id = network.connection id := by
  rw [enter_eq]
  rfl

end Changes

/-- Classes and names add no object. -/
theorem counted_tolerant : counted.Tolerant where
  node network id _ _ := by simp only [counted, counts, updateNode, Array.size_modify]
  interface network id _ _ := by simp only [counted, counts, updateInterface, Array.size_modify]
  connection network id _ _ := by simp only [counted, counts, updateConnection, Array.size_modify]
  group network id _ _ := by simp only [counted, counts, updateGroup, Array.size_modify]
  enter network kind className scope := by
    rw [enter_eq]
    rfl
  parameters _ _ := rfl

end Network

namespace ClassEffects

open Network Stage

variable {config : Config} {network after : Network}

/-! ## Parts of an action -/

/-- A check that succeeded has changed nothing. -/
theorem checkLayer_eq_ok {context layer : String}
    (run : (checkLayer config context layer).outcome network = (.ok (), after)) :
    after = network := by
  unfold checkLayer at run
  split at run <;> cases run
  rfl

/-- Checks of layers change nothing. -/
theorem forM_checkLayer_eq_ok {context : String} {layers : List String}
    (run : (layers.forM (checkLayer config context)).outcome network = (.ok (), after)) :
    after = network :=
  outcome_forM_induction (· = network)
    (fun _ _ _ _ check same => (checkLayer_eq_ok check).trans same) run rfl

/-- The check of a class that is not primary changes nothing. -/
theorem checkSecondary_eq_ok {kind : ClassKind} {className : String}
    {stem managementClass : Option String} {tinet clab : Table Value}
    (run : (checkSecondary kind className stem managementClass tinet clab).outcome network =
      (.ok (), after)) : after = network := by
  unfold checkSecondary at run
  split at run
  · cases run
  · split at run
    · cases run
    · split at run <;> cases run
      rfl

/-- A primary class passes the check only as the first one, and nothing changes. -/
theorem checkFirstPrimary_eq_ok {kind : ClassKind} {object : String} {first : Option String}
    {className : String}
    (run : (checkFirstPrimary kind object first className).outcome network = (.ok (), after)) :
    first = none ∧ after = network := by
  cases first with
  | some => cases run
  | none =>
    cases run
    exact ⟨rfl, rfl⟩

/-- Giving policies one after the other gives them together. -/
theorem givePolicies_eq_ok {kind : ClassKind} {className : String}
    {update : (Table String → Table String) → Network → Network} {policies : List String}
    (run : (givePolicies config kind className update policies).outcome network =
      (.ok (), after))
    (identity : ∀ network, update id network = network)
    (compose : ∀ first second network,
      update second (update first network) = update (second ∘ first) network) :
    after = update (givenPolicies config policies) network := by
  unfold givePolicies at run
  induction policies generalizing network with
  | nil =>
    cases run
    exact (identity _).symm
  | cons policy rest inductionHypothesis =>
    obtain ⟨middle, first, others⟩ := outcome_forM_cons_eq_ok.mp run
    obtain ⟨layer, _, found, given⟩ := outcome_bind_eq_ok.mp first
    obtain ⟨known, rfl⟩ := outcome_ofExcept_eq_ok.mp found
    cases given
    rw [inductionHypothesis others, compose]
    refine congrArg (update · _) (funext fun table => ?_)
    unfold policyLayer at known
    cases policyAt : config.policy? policy with
    | none =>
      rw [policyAt] at known
      cases known
    | some entry =>
      rw [policyAt] at known
      cases known
      simp only [givenPolicies, List.foldl_cons, policyAt, Function.comp_apply]

/-- A class that requests nothing but the existence of policies changes nothing. -/
theorem givePolicies_nothing {kind : ClassKind} {className : String} {policies : List String}
    (run : (givePolicies config kind className (fun _ network => network) policies).outcome
      network = (.ok (), after)) : after = network :=
  givePolicies_eq_ok run (fun _ => rfl) fun _ _ _ => rfl

/-- A node that is given policies changes in them only. -/
theorem giveNodePolicies_eq_ok {id : NodeId} {className : String} {policies : List String}
    (run : (givePolicies config .node className (fun change network =>
      network.updateNode id fun node => { node with policies := change node.policies })
        policies).outcome network = (.ok (), after)) :
    after = network.updateNode id fun node =>
      { node with policies := givenPolicies config policies node.policies } :=
  givePolicies_eq_ok run (fun _ => updateNode_id id) fun _ _ _ => updateNode_updateNode id _ _

/-- An interface that is given policies changes in them only. -/
theorem giveInterfacePolicies_eq_ok {kind : ClassKind} {id : InterfaceId} {className : String}
    {policies : List String}
    (run : (giveInterfacePolicies config kind className id policies).outcome network =
      (.ok (), after)) :
    after = network.updateInterface id fun interface =>
      { interface with policies := givenPolicies config policies interface.policies } :=
  givePolicies_eq_ok run (fun _ => updateInterface_id id) fun _ _ _ =>
    updateInterface_updateInterface id _ _

/-- Policies given to many interfaces amount to `Network.giveInterfaces`. -/
theorem giveInterfaces_eq_ok {className : String} {interfaces : List InterfaceId}
    {policies : List String}
    (run : (policies.forM fun policy => do
      interfaces.forM fun interface =>
        givePolicies config .node className
          (fun change network => network.updateInterface interface fun found =>
            { found with policies := change found.policies }) [policy]
      if interfaces.isEmpty then
        givePolicies config .node className (fun _ network => network) [policy]).outcome
          network = (.ok (), after)) :
    after = network.giveInterfaces config interfaces policies := by
  refine outcome_forM_eq_foldl (fun policy _ before next step => ?_) run
  obtain ⟨_, middle, given, checked⟩ := outcome_bind_eq_ok.mp step
  have same : next = middle := by
    split at checked
    · exact givePolicies_nothing checked
    · cases checked
      rfl
  rw [same]
  exact outcome_forM_eq_foldl (fun id _ _ _ single => giveInterfacePolicies_eq_ok single) given

/-- The layers of the neighbor classes are added to those of the interface. -/
theorem giveNeighborLayers_eq_ok {id : InterfaceId} {context : String}
    {neighbors : List NeighborClass}
    (run : (giveNeighborLayers config id context neighbors).outcome network = (.ok (), after)) :
    after = network.updateInterface id fun interface =>
      { interface with
        neighborLayers := interface.neighborLayers.addAll (neighbors.map (·.layer)) } := by
  unfold giveNeighborLayers at run
  induction neighbors generalizing network with
  | nil =>
    cases run
    exact (updateInterface_id id).symm
  | cons neighbor rest inductionHypothesis =>
    obtain ⟨middle, first, others⟩ := outcome_forM_cons_eq_ok.mp run
    obtain ⟨_, checked, check, given⟩ := outcome_bind_eq_ok.mp first
    cases given
    rw [inductionHypothesis others, checkLayer_eq_ok check, updateInterface_updateInterface]
    rfl

/-- A field of an interface that requests leave alone. -/
theorem foldl_withConnectionClass_field {β : Type} (field : Interface → β)
    (requests : ∀ interface className policies params neighbors members,
      field (Interface.withRequests config className policies params neighbors members interface) =
        field interface)
    (definitions : List ConnectionClass) (interface : Interface) :
    field (definitions.foldl (Interface.withConnectionClass config) interface) =
      field interface := by
  induction definitions generalizing interface with
  | nil => rfl
  | cons definition rest inductionHypothesis =>
    rw [List.foldl_cons, inductionHypothesis]
    exact requests interface _ _ _ _ _

/-- A field of an interface that the classes of its connection leave alone. -/
theorem withConnection_field {β : Type} (field : Interface → β)
    (requests : ∀ interface className policies params neighbors members,
      field (Interface.withRequests config className policies params neighbors members interface) =
        field interface)
    (mark : ∀ interface isVirtual stem,
      field { interface with isVirtual, stem } = field interface)
    (connection : Connection) (interface : Interface) :
    field (interface.withConnection config connection) = field interface :=
  (mark _ _ _).trans (foldl_withConnectionClass_field field requests _ interface)

/-! ## Actions -/

/-- A class acts on a node that has not got it. -/
inductive NodeActs (config : Config) (id : NodeId) (network : Network) : Network → Prop where
  | intro (definition : NodeClass) (listed : definition ∈ config.nodeClasses)
      (fresh : definition.name ∉ (network.node id).classes)
      (first : definition.primary = true → (network.node id).primaryClass = none) :
      NodeActs config id network
        (((network.enter .node definition.name (.node id)).giveInterfaces config
          (network.node id).interfaces definition.interfacePolicies).updateNode id
            (Node.withClass config definition))

/-- A class acts on a connection that has not got it. -/
inductive ConnectionActs (config : Config) (id : ConnectionId) (network : Network) :
    Network → Prop where
  | intro (definition : ConnectionClass) (listed : definition ∈ config.connectionClasses)
      (fresh : definition.name ∉ (network.connection id).classes)
      (first : definition.primary = true → (network.connection id).primaryClass = none) :
      ConnectionActs config id network
        ((network.enter .connection definition.name (.connection id)).updateConnection id
          (Connection.withClass config definition))

/-- A class acts on an interface that has not got it. -/
inductive InterfaceActs (config : Config) (id : InterfaceId) (network : Network) :
    Network → Prop where
  | intro (definition : InterfaceClass) (listed : definition ∈ config.interfaceClasses)
      (fresh : definition.name ∉ (network.interface id).classes)
      (first : definition.primary = true → (network.interface id).primaryClass = none ∧
        ∀ found, (network.interface id).connection = some found →
          (network.connection found).primaryClass = none) :
      InterfaceActs config id network
        (((network.enter .interface definition.name (.interface id)).widen id
          definition).updateInterface id (Interface.withClass config definition))

/-- A class acts on a group that has not got it. -/
inductive GroupActs (config : Config) (id : GroupId) (network : Network) : Network → Prop where
  | intro (definition : GroupClass) (listed : definition ∈ config.groupClasses)
      (fresh : definition.name ∉ (network.group id).classes) :
      GroupActs config id network
        ((network.enter .group definition.name (.group id)).updateGroup id
          (Group.withClass config definition))

/-- What one policy for one interface keeps, policies for some interfaces keep. -/
theorem giveInterfaces_holds {frame : Frame}
    (gives : ∀ network id policy, frame.holds network (network.updateInterface id fun interface =>
      { interface with policies := givenPolicies config [policy] interface.policies }))
    (network : Network) (interfaces : List InterfaceId) (policies : List String) :
    frame.holds network (network.giveInterfaces config interfaces policies) := by
  unfold giveInterfaces
  refine frame.foldl (fun current => current) (fun current policy => ?_) network policies
  exact frame.foldl (fun current => current) (fun next id => gives next id policy) current
    interfaces

/-- Policies for interfaces change interfaces only. -/
theorem giveInterfaces_eq (network : Network) (interfaces : List InterfaceId)
    (policies : List String) :
    network.giveInterfaces config interfaces policies =
      { network with
        interfaces := (network.giveInterfaces config interfaces policies).interfaces } := by
  let rest : Frame :=
    { holds before after := after = { before with interfaces := after.interfaces }
      refl _ := rfl
      trans first second := second.trans (by rw [first]) }
  have given : rest.holds network (network.giveInterfaces config interfaces policies) :=
    giveInterfaces_holds (fun _ _ _ => rfl) network interfaces policies
  exact given

/-- Widening changes connections only. -/
theorem widen_eq (network : Network) (id : InterfaceId) (definition : InterfaceClass) :
    network.widen id definition =
      { network with connections := (network.widen id definition).connections } := by
  unfold widen
  split <;> rfl

/-- The start of a visit of an interface changes interfaces only. -/
theorem startInterface_eq (network : Network) (id : InterfaceId) :
    network.startInterface config id =
      { network with interfaces := (network.startInterface config id).interfaces } := by
  unfold startInterface
  dsimp only
  split <;> rfl

/-- A class that widens an interface changes its connection only. -/
theorem interfaces_widen (network : Network) (id : InterfaceId) (definition : InterfaceClass) :
    (network.widen id definition).interfaces = network.interfaces := by
  rw [widen_eq]

/-- A class that widens an interface changes its connection only. -/
theorem interface_widen (network : Network) (id other : InterfaceId)
    (definition : InterfaceClass) :
    (network.widen id definition).interface other = network.interface other := by
  rw [Network.interface, interfaces_widen]
  rfl

/-- Policies given to interfaces leave the nodes as they are. -/
theorem nodes_giveInterfaces (network : Network) (interfaces : List InterfaceId)
    (policies : List String) :
    (network.giveInterfaces config interfaces policies).nodes = network.nodes := by
  rw [giveInterfaces_eq]

/-- Policies given to interfaces leave every node as it is. -/
theorem node_giveInterfaces (network : Network) (interfaces : List InterfaceId)
    (policies : List String) (id : NodeId) :
    (network.giveInterfaces config interfaces policies).node id = network.node id := by
  rw [Network.node, nodes_giveInterfaces]
  rfl

/-- The platform attributes, the stem and the management class of a primary class. -/
theorem makePrimaryNode_eq_ok {id : NodeId} {object : String} {definition : NodeClass}
    (run : (makePrimaryNode config id object definition).outcome network = (.ok (), after)) :
    (network.node id).primaryClass = none ∧
      after = network.updateNode id fun node =>
        { node with
          primaryClass := some definition.name
          stem := definition.stem.getD node.stem
          managementClass := definition.managementClass.or node.managementClass
          tinet := definition.tinet
          clab := definition.clab } := by
  rw [makePrimaryNode, outcome_get_bind] at run
  obtain ⟨_, _, check, rest⟩ := outcome_bind_eq_ok.mp run
  obtain ⟨free, rfl⟩ := checkFirstPrimary_eq_ok check
  refine ⟨free, ?_⟩
  rw [outcome_modify_bind] at rest
  cases management : definition.managementClass with
  | none =>
    rw [management] at rest
    obtain rfl := outcome_modify_eq_ok.mp rest
    exact updateNode_updateNode id _ _
  | some name =>
    rw [management] at rest
    dsimp only at rest
    split at rest
    · cases rest
    · rw [outcome_modify_bind] at rest
      obtain rfl := outcome_modify_eq_ok.mp rest
      rw [updateNode_updateNode, updateNode_updateNode]
      rfl

/-- What a class does to a node, when it may. -/
theorem applyNodeClass_eq_ok {id : NodeId} {definition : NodeClass}
    (run : (applyNodeClass config id definition).outcome network = (.ok (), after)) :
    after = ((network.enter .node definition.name (.node id)).giveInterfaces config
        (network.node id).interfaces definition.interfacePolicies).updateNode id
          (Node.withClass config definition) ∧
      (definition.primary = true → (network.node id).primaryClass = none) := by
  rw [applyNodeClass, outcome_get_bind, outcome_modify_bind, outcome_get_bind, node_enter] at run
  obtain ⟨_, given, interfaces, run⟩ := outcome_bind_eq_ok.mp run
  obtain rfl := giveInterfaces_eq_ok interfaces
  rw [outcome_modify_bind] at run
  obtain ⟨_, _, policies, run⟩ := outcome_bind_eq_ok.mp run
  obtain rfl := giveNodePolicies_eq_ok policies
  rw [outcome_modify_bind, updateNode_updateNode, updateNode_updateNode] at run
  by_cases primary : definition.primary = true
  · rw [if_pos primary] at run
    obtain ⟨_, _, made, run⟩ := outcome_bind_eq_ok.mp run
    obtain ⟨free, rfl⟩ := makePrimaryNode_eq_ok made
    obtain rfl := outcome_modify_eq_ok.mp run
    have first : (network.node id).primaryClass = none := by
      rw [node_updateNode, node_giveInterfaces, node_enter] at free
      split at free <;> exact free
    refine ⟨?_, fun _ => first⟩
    rw [updateNode_updateNode, updateNode_updateNode]
    congr 1
    funext node
    simp only [Node.withClass, Function.comp_apply, if_pos primary]
  · rw [if_neg primary] at run
    obtain ⟨_, _, check, run⟩ := outcome_bind_eq_ok.mp run
    obtain rfl := checkSecondary_eq_ok check
    obtain rfl := outcome_modify_eq_ok.mp run
    refine ⟨?_, fun first => absurd first primary⟩
    rw [updateNode_updateNode]
    congr 1
    funext node
    simp only [Node.withClass, Function.comp_apply, if_neg primary]

/-- The action of a class that the node has not got. -/
theorem applyNodeClass_acts {id : NodeId} {definition : NodeClass}
    (listed : definition ∈ config.nodeClasses)
    (fresh : definition.name ∉ (network.node id).classes)
    (run : (applyNodeClass config id definition).outcome network = (.ok (), after)) :
    NodeActs config id network after := by
  obtain ⟨rfl, first⟩ := applyNodeClass_eq_ok run
  exact .intro definition listed fresh first

/-- What a class does to a connection, when it may. -/
theorem applyConnectionClass_eq_ok {id : ConnectionId} {object : String}
    {definition : ConnectionClass}
    (run : (applyConnectionClass config id object definition).outcome network = (.ok (), after)) :
    after = (network.enter .connection definition.name (.connection id)).updateConnection id
        (Connection.withClass config definition) ∧
      (definition.primary = true → (network.connection id).primaryClass = none) := by
  rw [applyConnectionClass, outcome_modify_bind] at run
  obtain ⟨_, _, layers, run⟩ := outcome_bind_eq_ok.mp run
  obtain rfl := forM_checkLayer_eq_ok layers
  obtain ⟨_, _, policies, run⟩ := outcome_bind_eq_ok.mp run
  obtain rfl := givePolicies_nothing policies
  rw [outcome_modify_bind] at run
  by_cases primary : definition.primary = true
  · rw [if_pos primary, outcome_get_bind] at run
    obtain ⟨_, _, check, run⟩ := outcome_bind_eq_ok.mp run
    obtain ⟨free, rfl⟩ := checkFirstPrimary_eq_ok check
    rw [outcome_modify_bind] at run
    obtain rfl := outcome_modify_eq_ok.mp run
    have first : (network.connection id).primaryClass = none := by
      rw [connection_updateConnection, connection_enter] at free
      split at free <;> exact free
    refine ⟨?_, fun _ => first⟩
    rw [updateConnection_updateConnection, updateConnection_updateConnection]
    congr 1
    funext connection
    simp only [Connection.withClass, Function.comp_apply, if_pos primary]
  · rw [if_neg primary] at run
    obtain ⟨_, _, check, run⟩ := outcome_bind_eq_ok.mp run
    obtain rfl := checkSecondary_eq_ok check
    obtain rfl := outcome_modify_eq_ok.mp run
    refine ⟨?_, fun first => absurd first primary⟩
    rw [updateConnection_updateConnection]
    congr 1
    funext connection
    simp only [Connection.withClass, Function.comp_apply, if_neg primary]

/-- The action of a class that the connection has not got. -/
theorem applyConnectionClass_acts {id : ConnectionId} {object : String}
    {definition : ConnectionClass} (listed : definition ∈ config.connectionClasses)
    (fresh : definition.name ∉ (network.connection id).classes)
    (run : (applyConnectionClass config id object definition).outcome network = (.ok (), after)) :
    ConnectionActs config id network after := by
  obtain ⟨rfl, first⟩ := applyConnectionClass_eq_ok run
  exact .intro definition listed fresh first

/-- What a class of an interface or of its connection requests is given in one change. -/
theorem requests_eq_ok {kind : ClassKind} {id : InterfaceId} {className context : String}
    {policies params : List String} {neighbors : List NeighborClass} {members : List MemberClass}
    {first second third : Network}
    (given : (giveInterfacePolicies config kind className id policies).outcome network =
      (.ok (), first))
    (requested : (giveRequests config id params).outcome first = (.ok (), second))
    (asked : (giveNeighborLayers config id context neighbors).outcome second = (.ok (), third))
    (declared : (giveDeclarations id className members).outcome third = (.ok (), after)) :
    after = network.updateInterface id
      (Interface.withRequests config className policies params neighbors members) := by
  obtain rfl := giveInterfacePolicies_eq_ok given
  obtain rfl := outcome_modify_eq_ok.mp requested
  obtain rfl := giveNeighborLayers_eq_ok asked
  obtain rfl := outcome_modify_eq_ok.mp declared
  rw [updateInterface_updateInterface, updateInterface_updateInterface,
    updateInterface_updateInterface]
  rfl

/-- The classes of a connection act on an end of it in one change. -/
theorem applyConnectionToEnd_eq_ok {id : InterfaceId} {connection : Connection}
    (run : (applyConnectionToEnd config id connection).outcome network = (.ok (), after)) :
    after = network.updateInterface id (Interface.withConnection config connection) := by
  obtain ⟨_, acted, acts, marked⟩ := outcome_bind_eq_ok.mp run
  have all : acted = network.updateInterface id fun interface =>
      (connection.classes.filterMap config.connectionClass?).foldl
        (Interface.withConnectionClass config) interface := by
    clear run marked
    generalize connection.classes = names at acts ⊢
    induction names generalizing network with
    | nil =>
      cases acts
      exact (updateInterface_id id).symm
    | cons name rest inductionHypothesis =>
      obtain ⟨middle, first, others⟩ := outcome_forM_cons_eq_ok.mp acts
      rw [inductionHypothesis others]
      cases defined : config.connectionClass? name with
      | none =>
        rw [defined] at first
        cases first
        rw [List.filterMap_cons_none defined]
      | some definition =>
        rw [defined] at first
        obtain ⟨_, _, given, first⟩ := outcome_bind_eq_ok.mp first
        obtain ⟨_, _, requested, first⟩ := outcome_bind_eq_ok.mp first
        obtain ⟨_, _, asked, declared⟩ := outcome_bind_eq_ok.mp first
        rw [requests_eq_ok given requested asked declared, updateInterface_updateInterface,
          List.filterMap_cons_some defined]
        rfl
  rw [outcome_modify_eq_ok.mp marked, all, updateInterface_updateInterface]
  rfl

/-- Widening the connection of an interface succeeds. -/
theorem widenConnection_eq_ok {id : InterfaceId} {definition : InterfaceClass}
    (run : (widenConnection id definition).outcome network = (.ok (), after)) :
    after = network.widen id definition := by
  rw [widenConnection, outcome_get_bind] at run
  unfold widen
  cases found : (network.interface id).connection with
  | none =>
    rw [found] at run
    cases run
    rfl
  | some connection =>
    rw [found] at run
    exact outcome_modify_eq_ok.mp run

/-- The primary class of an interface or of its connection, if a class is primary. -/
theorem checkConnectionPrimary_eq_ok {id : InterfaceId} {object : String}
    {definition : InterfaceClass}
    (run : (checkConnectionPrimary id object definition).outcome network = (.ok (), after)) :
    after = network ∧ (definition.primary = true → (network.interface id).primaryClass = none →
      ∀ found, (network.interface id).connection = some found →
        (network.connection found).primaryClass = none) := by
  rw [checkConnectionPrimary, outcome_get_bind] at run
  dsimp only at run
  split at run
  case isTrue =>
    obtain ⟨free, rfl⟩ := checkFirstPrimary_eq_ok run
    refine ⟨rfl, fun _ _ found link => ?_⟩
    rw [link] at free
    exact free
  case isFalse first =>
    cases run
    refine ⟨rfl, fun primary free => absurd ?_ first⟩
    rw [primary, free]
    rfl

/-- What a class does to an interface and its connection, when it may. -/
theorem applyInterfaceClass_eq_ok {id : InterfaceId} {object : String}
    {definition : InterfaceClass}
    (run : (applyInterfaceClass config id object definition).outcome network = (.ok (), after)) :
    after = ((network.enter .interface definition.name (.interface id)).widen id
        definition).updateInterface id (Interface.withClass config definition) ∧
      (definition.primary = true → (network.interface id).primaryClass = none ∧
        ∀ found, (network.interface id).connection = some found →
          (network.connection found).primaryClass = none) := by
  rw [applyInterfaceClass, outcome_modify_bind] at run
  obtain ⟨_, _, layers, run⟩ := outcome_bind_eq_ok.mp run
  obtain rfl := forM_checkLayer_eq_ok layers
  obtain ⟨_, _, check, run⟩ := outcome_bind_eq_ok.mp run
  obtain ⟨rfl, connectionFirst⟩ := checkConnectionPrimary_eq_ok check
  obtain ⟨_, _, widened, run⟩ := outcome_bind_eq_ok.mp run
  obtain rfl := widenConnection_eq_ok widened
  rw [outcome_modify_bind] at run
  obtain ⟨_, _, given, run⟩ := outcome_bind_eq_ok.mp run
  obtain ⟨_, _, requested, run⟩ := outcome_bind_eq_ok.mp run
  obtain ⟨_, _, asked, run⟩ := outcome_bind_eq_ok.mp run
  obtain ⟨_, _, declared, run⟩ := outcome_bind_eq_ok.mp run
  obtain rfl := requests_eq_ok given requested asked declared
  simp only [interface_enter, connection_enter] at connectionFirst
  by_cases primary : definition.primary = true
  · rw [if_pos primary, makePrimaryInterface] at run
    obtain ⟨_, _, made, run⟩ := outcome_bind_eq_ok.mp run
    rw [outcome_get_bind] at made
    obtain ⟨_, _, check, made⟩ := outcome_bind_eq_ok.mp made
    obtain ⟨free, rfl⟩ := checkFirstPrimary_eq_ok check
    obtain rfl := outcome_modify_eq_ok.mp made
    obtain rfl := outcome_modify_eq_ok.mp run
    have first : (network.interface id).primaryClass = none := by
      rw [updateInterface_updateInterface, interface_updateInterface, interface_widen,
        interface_enter] at free
      split at free <;> exact free
    refine ⟨?_, fun _ => ⟨first, connectionFirst primary first⟩⟩
    simp only [updateInterface_updateInterface]
    congr 1
    funext interface
    simp only [Interface.withClass, Interface.withRequests, Function.comp_apply, if_pos primary]
  · rw [if_neg primary] at run
    obtain ⟨_, _, check, run⟩ := outcome_bind_eq_ok.mp run
    obtain rfl := checkSecondary_eq_ok check
    obtain rfl := outcome_modify_eq_ok.mp run
    refine ⟨?_, fun first => absurd first primary⟩
    simp only [updateInterface_updateInterface]
    congr 1
    funext interface
    simp only [Interface.withClass, Interface.withRequests, Function.comp_apply, if_neg primary]

/-- The action of a class that the interface has not got. -/
theorem applyInterfaceClass_acts {id : InterfaceId} {object : String}
    {definition : InterfaceClass} (listed : definition ∈ config.interfaceClasses)
    (fresh : definition.name ∉ (network.interface id).classes)
    (run : (applyInterfaceClass config id object definition).outcome network = (.ok (), after)) :
    InterfaceActs config id network after := by
  obtain ⟨rfl, first⟩ := applyInterfaceClass_eq_ok run
  exact .intro definition listed fresh first

/-- What a class does to a group. -/
theorem applyGroupClass_eq_ok {id : GroupId} {definition : GroupClass}
    (run : (applyGroupClass config id definition).outcome network = (.ok (), after)) :
    after = (network.enter .group definition.name (.group id)).updateGroup id
      (Group.withClass config definition) := by
  rw [applyGroupClass, outcome_modify_bind] at run
  exact outcome_modify_eq_ok.mp run

/-- The action of a class that the group has not got. -/
theorem applyGroupClass_acts {id : GroupId} {definition : GroupClass}
    (listed : definition ∈ config.groupClasses)
    (fresh : definition.name ∉ (network.group id).classes)
    (run : (applyGroupClass config id definition).outcome network = (.ok (), after)) :
    GroupActs config id network after := by
  rw [applyGroupClass_eq_ok run]
  exact .intro definition listed fresh

/-! ## Objects -/

open Relation (ReflTransGen)

/-- The classes of a node act on it. -/
theorem resolveNode_acts {extra : List String} {id : NodeId}
    (run : (resolveNode config extra id).outcome network = (.ok (), after)) :
    ReflTransGen (NodeActs config id) (network.startNode id) after := by
  rw [resolveNode, outcome_get_bind, outcome_modify_bind] at run
  refine outcome_forM_induction _ (fun name _ before next step acted => acted.trans ?_) run .refl
  rw [outcome_get_bind] at step
  obtain ⟨definition, _, found, step⟩ := outcome_bind_eq_ok.mp step
  obtain ⟨defined, rfl⟩ := outcome_require_eq_ok.mp found
  split at step
  case isTrue fresh =>
    refine .single (applyNodeClass_acts (List.mem_of_find?_eq_some defined) ?_ step)
    simpa using fresh
  case isFalse =>
    cases step
    exact .refl

/-- The classes of a connection act on it. -/
theorem resolveConnection_acts {extra : List String} {id : ConnectionId}
    (run : (resolveConnection config extra id).outcome network = (.ok (), after)) :
    ReflTransGen (ConnectionActs config id) (network.startConnection config id) after := by
  rw [resolveConnection, outcome_get_bind] at run
  dsimp only at run
  rw [outcome_modify_bind] at run
  refine outcome_forM_induction _ (fun name _ before next step acted => acted.trans ?_) run .refl
  obtain ⟨definition, _, found, act⟩ := outcome_bind_eq_ok.mp step
  obtain ⟨defined, rfl⟩ := outcome_require_eq_ok.mp found
  rw [outcome_get_bind] at act
  split at act
  case isTrue fresh =>
    refine .single (applyConnectionClass_acts (List.mem_of_find?_eq_some defined) ?_ act)
    simpa using fresh
  case isFalse =>
    cases act
    exact .refl

/-- The interface class of a name acts on an interface that has not got it. -/
theorem addInterfaceClass_acts {id : InterfaceId} {name : String}
    (run : (addInterfaceClass config id name).outcome network = (.ok (), after)) :
    ReflTransGen (InterfaceActs config id) network after := by
  rw [addInterfaceClass, outcome_get_bind] at run
  obtain ⟨definition, _, found, run⟩ := outcome_bind_eq_ok.mp run
  obtain ⟨defined, rfl⟩ := outcome_require_eq_ok.mp found
  split at run
  case isTrue fresh =>
    refine .single (applyInterfaceClass_acts (List.mem_of_find?_eq_some defined) ?_ run)
    simpa using fresh
  case isFalse =>
    cases run
    exact .refl

/-- A class that is not for management only acts like any other. -/
theorem addOwnClass_acts {node : Node} {id : InterfaceId} {name : String}
    (run : Stage.outcome (do
      let network ← get
      if node.managementClass == some name && !(network.interface id).isManagement then
        throw (.misplacedManagementClass name (network.describe (.interface id)))
      addInterfaceClass config id name) network = (.ok (), after)) :
    ReflTransGen (InterfaceActs config id) network after := by
  rw [outcome_get_bind] at run
  dsimp only at run
  split at run
  · cases run
  · exact addInterfaceClass_acts run

/-- The classes of an interface act on it, after those of its connection. -/
theorem resolveInterface_acts {extra : List String} {id : InterfaceId}
    (run : (resolveInterface config extra id).outcome network = (.ok (), after)) :
    ReflTransGen (InterfaceActs config id) (network.startInterface config id) after := by
  rw [resolveInterface, outcome_get_bind] at run
  dsimp only at run
  rw [outcome_modify_bind] at run
  unfold startInterface
  dsimp only
  cases link : (network.interface id).connection with
  | none =>
    rw [link] at run
    exact outcome_forM_induction _
      (fun _ _ _ _ step acted => acted.trans (addOwnClass_acts step)) run .refl
  | some found =>
    rw [link] at run
    obtain ⟨_, _, connected, classes⟩ := outcome_bind_eq_ok.mp run
    obtain rfl := applyConnectionToEnd_eq_ok connected
    exact outcome_forM_induction _
      (fun _ _ _ _ step acted => acted.trans (addOwnClass_acts step)) classes .refl

/-- The classes of a group act on it. -/
theorem resolveGroup_acts {id : GroupId}
    (run : (resolveGroup config id).outcome network = (.ok (), after)) :
    ReflTransGen (GroupActs config id) network after := by
  rw [resolveGroup, outcome_get_bind] at run
  refine outcome_forM_induction _ (fun name _ before next step acted => acted.trans ?_) run .refl
  rw [outcome_get_bind] at step
  obtain ⟨definition, _, found, step⟩ := outcome_bind_eq_ok.mp step
  obtain ⟨defined, rfl⟩ := outcome_require_eq_ok.mp found
  split at step
  case isTrue fresh =>
    refine .single (applyGroupClass_acts (List.mem_of_find?_eq_some defined) ?_ step)
    simpa using fresh
  case isFalse =>
    cases step
    exact .refl

/-! ## The network -/

/-- One step of the effects of classes on the objects of a network. -/
inductive ClassStep (config : Config) (network : Network) : Network → Prop where
  | startNode (id : NodeId) : ClassStep config network (network.startNode id)
  | node (id : NodeId) (next : Network) (inside : id < network.nodes.size)
      (acts : NodeActs config id network next) : ClassStep config network next
  | startConnection (id : ConnectionId) :
      ClassStep config network (network.startConnection config id)
  | connection (id : ConnectionId) (next : Network) (inside : id < network.connections.size)
      (acts : ConnectionActs config id network next) : ClassStep config network next
  | startInterface (id : InterfaceId) :
      ClassStep config network (network.startInterface config id)
  | interface (id : InterfaceId) (next : Network) (inside : id < network.interfaces.size)
      (acts : InterfaceActs config id network next) : ClassStep config network next
  | group (id : GroupId) (next : Network) (inside : id < network.groups.size)
      (acts : GroupActs config id network next) : ClassStep config network next

/-- A step is within every tolerant frame. -/
theorem ClassStep.holds {frame : Frame} (tolerant : frame.Tolerant) {next : Network}
    (step : ClassStep config network next) : frame.holds network next := by
  cases step with
  | startNode id => exact tolerant.node _ id fun _ => rfl
  | node id _ _ acts =>
    obtain ⟨definition, _, _, _⟩ := acts
    refine frame.trans (tolerant.enter network .node definition.name (.node id)) ?_
    refine frame.trans ?_ (tolerant.node _ id fun _ => rfl)
    exact giveInterfaces_holds (fun current interface _ => tolerant.interface current interface
      fun _ => by rfl) _ _ _
  | startConnection id => exact tolerant.connection _ id fun _ => rfl
  | connection id _ _ acts =>
    obtain ⟨definition, _, _, _⟩ := acts
    refine frame.trans (tolerant.enter network .connection definition.name (.connection id)) ?_
    exact tolerant.connection _ id fun _ => rfl
  | startInterface id =>
    unfold Network.startInterface
    dsimp only
    split
    · exact frame.trans (tolerant.interface network id fun _ => by rfl)
        (tolerant.interface _ id
          (withConnection_field Interface.fixed (fun _ _ _ _ _ _ => rfl) (fun _ _ _ => rfl) _))
    · exact tolerant.interface network id fun _ => rfl
  | interface id _ _ acts =>
    obtain ⟨definition, _, _, _⟩ := acts
    refine frame.trans (tolerant.enter network .interface definition.name (.interface id)) ?_
    refine frame.trans ?_ (tolerant.interface _ id fun _ => rfl)
    unfold widen
    split
    · exact tolerant.connection _ _ fun _ => rfl
    · exact frame.refl _
  | group id _ _ acts =>
    obtain ⟨definition, _, _⟩ := acts
    refine frame.trans (tolerant.enter network .group definition.name (.group id)) ?_
    exact tolerant.group _ id fun _ => rfl

/-- One class given adds no objects. -/
theorem ClassStep.counts {next : Network} (step : ClassStep config network next) :
    next.counts = network.counts :=
  step.holds counted_tolerant

/-- Classes given one after the other add no objects. -/
theorem counts_of_steps (chain : ReflTransGen (ClassStep config) network after) :
    after.counts = network.counts := by
  induction chain with
  | refl => rfl
  | tail _ last inductionHypothesis => exact last.counts.trans inductionHypothesis

/-- Actions on an object that there is are steps. -/
theorem steps_of_acts {acts : Network → Network → Prop} (size : Counts → Nat) {id : Nat}
    (step : ∀ before next, id < size before.counts → acts before next →
      ClassStep config before next)
    (inside : id < size network.counts) (chain : ReflTransGen acts network after) :
    ReflTransGen (ClassStep config) network after := by
  induction chain with
  | refl => exact .refl
  | tail _ last inductionHypothesis =>
    refine inductionHypothesis.tail (step _ _ ?_ last)
    rw [counts_of_steps inductionHypothesis]
    exact inside

/-- Actions on an object after a first step. -/
theorem steps_of_start {acts : Network → Network → Prop} (size : Counts → Nat) {id : Nat}
    {started : Network} (start : ClassStep config network started)
    (step : ∀ before next, id < size before.counts → acts before next →
      ClassStep config before next)
    (inside : id < size network.counts) (chain : ReflTransGen acts started after) :
    ReflTransGen (ClassStep config) network after := by
  refine .head start (steps_of_acts size step ?_ chain)
  rw [start.counts]
  exact inside

/-- Stages of all objects of a kind, when each stage is made of steps. -/
theorem forM_steps (size : Counts → Nat) {stage : Nat → Stage PUnit}
    (each : ∀ id before next, id < size before.counts →
      (stage id).outcome before = (.ok ⟨⟩, next) → ReflTransGen (ClassStep config) before next)
    (run : ((List.range (size network.counts)).forM stage).outcome network = (.ok ⟨⟩, after)) :
    ReflTransGen (ClassStep config) network after := by
  refine outcome_forM_induction _ (fun id listed before next step chain => ?_) run .refl
  refine chain.trans (each id before next ?_ step)
  rw [counts_of_steps chain]
  exact List.mem_range.mp listed

/-- The rounds of the effects of classes: nodes, connections, interfaces, groups, and then
the network itself. -/
theorem resolveClasses_eq_ok {extra : ExtraClasses}
    (run : (resolveClasses config extra).outcome network = (.ok (), after)) :
    ∃ nodes connections interfaces groups,
      (network.nodeIds.forM (resolveNode config extra.node)).outcome network = (.ok (), nodes) ∧
        (nodes.connectionIds.forM (resolveConnection config extra.connection)).outcome nodes =
          (.ok (), connections) ∧
        (connections.interfaceIds.forM (resolveInterface config extra.interface)).outcome
          connections = (.ok (), interfaces) ∧
        (interfaces.groupIds.forM (resolveGroup config)).outcome interfaces = (.ok (), groups) ∧
        after = config.networkClasses.foldl applyNetworkClass groups := by
  rw [resolveClasses, outcome_get_bind] at run
  obtain ⟨_, nodes, nodesRun, run⟩ := outcome_bind_eq_ok.mp run
  rw [outcome_get_bind] at run
  obtain ⟨_, connections, connectionsRun, run⟩ := outcome_bind_eq_ok.mp run
  rw [outcome_get_bind] at run
  obtain ⟨_, interfaces, interfacesRun, run⟩ := outcome_bind_eq_ok.mp run
  rw [outcome_get_bind] at run
  obtain ⟨_, groups, groupsRun, run⟩ := outcome_bind_eq_ok.mp run
  exact ⟨nodes, connections, interfaces, groups, nodesRun, connectionsRun, interfacesRun,
    groupsRun, outcome_modify_eq_ok.mp run⟩

/-- The effects of all classes: steps of the objects, then the classes of the network. -/
theorem resolveClasses_steps {extra : ExtraClasses}
    (run : (resolveClasses config extra).outcome network = (.ok (), after)) :
    ∃ classified, ReflTransGen (ClassStep config) network classified ∧
      after = config.networkClasses.foldl applyNetworkClass classified := by
  obtain ⟨_, _, _, classified, nodes, connections, interfaces, groups, own⟩ :=
    resolveClasses_eq_ok run
  refine ⟨classified, ?_, own⟩
  have nodeSteps := forM_steps Counts.nodes (fun id _ _ inside step =>
    steps_of_start Counts.nodes (.startNode id) (fun _ _ => .node id _) inside
      (resolveNode_acts step)) nodes
  have connectionSteps := forM_steps Counts.connections (fun id _ _ inside step =>
    steps_of_start Counts.connections (.startConnection id) (fun _ _ => .connection id _) inside
      (resolveConnection_acts step)) connections
  have interfaceSteps := forM_steps Counts.interfaces (fun id _ _ inside step =>
    steps_of_start Counts.interfaces (.startInterface id) (fun _ _ => .interface id _) inside
      (resolveInterface_acts step)) interfaces
  have groupSteps := forM_steps Counts.groups (fun id _ _ inside step =>
    steps_of_acts Counts.groups (fun _ _ => .group id _) inside (resolveGroup_acts step)) groups
  exact nodeSteps.trans (connectionSteps.trans (interfaceSteps.trans groupSteps))

end ClassEffects

namespace Management

open Network Stage ClassEffects
open Relation (ReflTransGen)

variable {config : Config} {network after : Network}

/-- A management interface adds no node. -/
@[simp]
theorem size_nodes_addManagement (network : Network) (node : NodeId) (name className : String) :
    (network.addManagement node name className).nodes.size = network.nodes.size := by
  simp only [addManagement, Network.addInterface, updateNode, Array.size_modify]

/-- A management interface adds one interface. -/
@[simp]
theorem size_interfaces_addManagement (network : Network) (node : NodeId)
    (name className : String) :
    (network.addManagement node name className).interfaces.size = network.interfaces.size + 1 :=
  Array.size_push _

/-- A management interface has a name that its node has not got, and classes act on it after
it was added. -/
theorem addInterface_acts {management : ManagementLayer} {node : NodeId} {className : String}
    (run : (addInterface config management node className).outcome network = (.ok (), after)) :
    network.findInterface? node management.interface = none ∧
      ReflTransGen (InterfaceActs config network.interfaces.size)
        (network.addManagement node management.interface className) after := by
  rw [addInterface, outcome_get_bind] at run
  dsimp only at run
  split at run
  case isTrue => cases run
  case isFalse new =>
    rw [outcome_modify_bind] at run
    refine ⟨Option.not_isSome_iff_eq_none.mp new, ?_⟩
    split at run
    · obtain ⟨_, _, first, second⟩ := outcome_bind_eq_ok.mp run
      exact (addInterfaceClass_acts first).trans (addInterfaceClass_acts second)
    · exact addInterfaceClass_acts run

/-- What a new management interface and every action of a class on an interface keep is
kept by all management interfaces. -/
theorem addInterfaces_induction {invariant : Network → Prop}
    (adds : ∀ network node name className, node < network.nodes.size →
      network.findInterface? node name = none → invariant network →
        invariant (network.addManagement node name className))
    (acts : ∀ before next id, id < before.interfaces.size → InterfaceActs config id before next →
      invariant before → invariant next)
    (run : (addInterfaces config).outcome network = (.ok (), after)) (start : invariant network) :
    invariant after := by
  unfold addInterfaces at run
  split at run
  case h_1 =>
    cases run
    exact start
  case h_2 management _ =>
    rw [outcome_get_bind] at run
    let steady (current : Network) : Prop :=
      invariant current ∧ current.nodes.size = network.nodes.size
    refine (outcome_forM_induction steady (fun entry wanted before next step holds => ?_) run
      ⟨start, rfl⟩).1
    obtain ⟨id, listed, found⟩ := List.mem_filterMap.mp wanted
    obtain ⟨className, _, rfl⟩ := Option.map_eq_some_iff.mp found
    obtain ⟨holds, size⟩ := holds
    have inside : id < before.nodes.size := by
      rw [size]
      exact List.mem_range.mp listed
    let added := before.addManagement id management.interface className
    obtain ⟨new, chain⟩ : before.findInterface? id management.interface = none ∧
        ReflTransGen (InterfaceActs config before.interfaces.size) added next :=
      addInterface_acts step
    have acted : invariant next ∧ next.counts = added.counts := by
      clear step
      induction chain with
      | refl => exact ⟨adds before id management.interface className inside new holds, rfl⟩
      | @tail current _ _ last inductionHypothesis =>
        obtain ⟨holds, counts⟩ := inductionHypothesis
        have below : before.interfaces.size < current.interfaces.size := by
          refine Nat.lt_of_lt_of_eq ?_ (congrArg Counts.interfaces counts).symm
          change _ < added.interfaces.size
          rw [size_interfaces_addManagement]
          exact Nat.lt_succ_self _
        exact ⟨acts _ _ _ below last holds,
          (ClassStep.interface _ _ below last).counts.trans counts⟩
    exact ⟨acted.1, (congrArg Counts.nodes acted.2).trans
      ((size_nodes_addManagement before id _ _).trans size)⟩

end Management

end TopoPlan
