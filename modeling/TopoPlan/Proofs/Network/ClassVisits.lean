import Mathlib.Logic.Function.Basic
import TopoPlan.Proofs.Network.ClassSteps

/-!
# Objects after a visit

Classes visit the objects of a kind one after the other.  A visit starts with the object as
its topology made it, and every class that acts changes that object, and at most the
connection of an interface besides.  What is at a position after a start or an action is
said here once, for statements about all visits of a round.  `resolveClasses_visits` is for
properties of single objects: what the start of a visit establishes and each class keeps,
all objects have after all rounds.
-/

namespace TopoPlan

/-- The definitions of names after one more name. -/
theorem filterMap_append_found {α : Type} {find : String → Option α} {name : String}
    {definition : α} (found : find name = some definition) (names : List String) :
    (names ++ [name]).filterMap find = names.filterMap find ++ [definition] := by
  rw [List.filterMap_append, List.filterMap_cons_some found, List.filterMap_nil]

/-- What the definitions of names give after one more name. -/
theorem flatMap_append_found {α β : Type} {find : String → Option α} {name : String}
    {definition : α} (found : find name = some definition) (given : α → List β)
    (names : List String) :
    ((names ++ [name]).filterMap find).flatMap given =
      (names.filterMap find).flatMap given ++ given definition := by
  rw [filterMap_append_found found, List.flatMap_append, List.flatMap_singleton]

/-- An interface before its own classes act: its node may be virtual, and the classes of its
connection have acted. -/
def Interface.started (config : Config) (isVirtual : Bool) (line : Option Connection)
    (interface : Interface) : Interface :=
  let marked := { interface with isVirtual, stem := interfaceStem }
  match line with
  | some connection => marked.withConnection config connection
  | none => marked

namespace Interface

open ClassEffects

variable {config : Config} (isVirtual : Bool) (line : Option Connection) (interface : Interface)

/-- A field of a started interface that neither the node nor the connection gives. -/
theorem started_field {β : Type} (field : Interface → β)
    (requests : ∀ interface className policies params neighbors members,
      field (withRequests config className policies params neighbors members interface) =
        field interface)
    (mark : ∀ interface isVirtual stem,
      field { interface with isVirtual, stem } = field interface) :
    field (interface.started config isVirtual line) = field interface := by
  cases line with
  | none => exact mark _ _ _
  | some connection => exact (withConnection_field field requests mark _ _).trans (mark _ _ _)

/-- The stem of a started interface is that of its connection, if this has one. -/
theorem stem_started :
    (interface.started config isVirtual line).stem =
      (line.bind Connection.stem).getD interfaceStem := by
  cases line with
  | none => rfl
  | some connection =>
    exact congrArg connection.stem.getD
      (foldl_withConnectionClass_field stem (fun _ _ _ _ _ _ => rfl) _ _)

/-- A started interface has the marks of its node and of its connection. -/
theorem isVirtual_started :
    (interface.started config isVirtual line).isVirtual =
      (isVirtual || line.any Connection.isVirtual) := by
  cases line with
  | none => exact (Bool.or_false _).symm
  | some connection =>
    exact congrArg (· || connection.isVirtual)
      (foldl_withConnectionClass_field Interface.isVirtual (fun _ _ _ _ _ _ => rfl) _ _)

end Interface

namespace Network

/-- The frame of stages that leave nodes, interfaces and connections alone. -/
def sameObjects : Frame where
  holds before after := after.nodes = before.nodes ∧ after.interfaces = before.interfaces ∧
    after.connections = before.connections
  refl _ := ⟨rfl, rfl, rfl⟩
  trans first second := ⟨second.1.trans first.1, second.2.1.trans first.2.1,
    second.2.2.trans first.2.2⟩

section Changes

/-- What is at all positions after one entry was changed. -/
theorem getD_modify_eq_update {α : Type} (entries : Array α) (absent : α) {position : Nat}
    (inside : position < entries.size) (change : α → α) :
    (fun other => (entries.modify position change).getD other absent) =
      Function.update (fun other => entries.getD other absent) position
        (change (entries.getD position absent)) := by
  funext other
  rw [getD_modify]
  by_cases here : other = position
  · rw [here, if_pos ⟨rfl, inside⟩, Function.update_self]
  · rw [if_neg fun found => here found.1.symm, Function.update_of_ne here]

variable {network : Network}

/-- What is at the positions of nodes after one of them was changed. -/
theorem node_updateNode_eq_update {id : NodeId} (inside : id < network.nodes.size)
    (change : Node → Node) :
    (network.updateNode id change).node =
      Function.update network.node id (change (network.node id)) :=
  getD_modify_eq_update network.nodes default inside change

/-- What is at the positions of interfaces after one of them was changed. -/
theorem interface_updateInterface_eq_update {id : InterfaceId}
    (inside : id < network.interfaces.size) (change : Interface → Interface) :
    (network.updateInterface id change).interface =
      Function.update network.interface id (change (network.interface id)) :=
  getD_modify_eq_update network.interfaces default inside change

/-- What is at the positions of connections after one of them was changed. -/
theorem connection_updateConnection_eq_update {id : ConnectionId}
    (inside : id < network.connections.size) (change : Connection → Connection) :
    (network.updateConnection id change).connection =
      Function.update network.connection id (change (network.connection id)) :=
  getD_modify_eq_update network.connections default inside change

/-- What is at the positions of groups after one of them was changed. -/
theorem group_updateGroup_eq_update {id : GroupId} (inside : id < network.groups.size)
    (change : Group → Group) :
    (network.updateGroup id change).group =
      Function.update network.group id (change (network.group id)) :=
  getD_modify_eq_update network.groups default inside change

end Changes

/-- The connection of an interface, if it has one. -/
def line (network : Network) (id : InterfaceId) : Option Connection :=
  (network.interface id).connection.map network.connection

section Starts

variable {config : Config} (network : Network) (id : InterfaceId)

/-- What an interface is when its own classes start to act. -/
theorem interface_startInterface (inside : id < network.interfaces.size) :
    (network.startInterface config id).interface =
      Function.update network.interface id
        ((network.interface id).started config
          (network.node (network.interface id).node).isVirtual (network.line id)) := by
  unfold startInterface line
  dsimp only
  split
  case h_1 found link =>
    rw [updateInterface_updateInterface, interface_updateInterface_eq_update inside, link]
    rfl
  case h_2 link =>
    refine (interface_updateInterface_eq_update inside _).trans ?_
    simp only [Interface.started, link, Option.map_none]

/-- A field of interfaces that a visit does not change at its start. -/
theorem interface_startInterface_field {β : Type} (field : Interface → β)
    (requests : ∀ interface className policies params neighbors members,
      field (Interface.withRequests config className policies params neighbors members interface) =
        field interface)
    (mark : ∀ interface isVirtual stem, field { interface with isVirtual, stem } = field interface)
    (inside : id < network.interfaces.size) (other : InterfaceId) :
    field ((network.startInterface config id).interface other) =
      field (network.interface other) := by
  rw [interface_startInterface network id inside]
  by_cases here : other = id
  · rw [here, Function.update_self]
    exact Interface.started_field _ _ _ field requests mark
  · rw [Function.update_of_ne here]

theorem nodes_startInterface : (network.startInterface config id).nodes = network.nodes := by
  rw [ClassEffects.startInterface_eq]

theorem connections_startInterface :
    (network.startInterface config id).connections = network.connections := by
  rw [ClassEffects.startInterface_eq]

theorem groups_startInterface : (network.startInterface config id).groups = network.groups := by
  rw [ClassEffects.startInterface_eq]

/-- Interfaces have the same connections after the start of a visit. -/
theorem line_startInterface (inside : id < network.interfaces.size) (other : InterfaceId) :
    (network.startInterface config id).line other = network.line other := by
  have link : ((network.startInterface config id).interface other).connection =
      (network.interface other).connection :=
    interface_startInterface_field network id Interface.connection (fun _ _ _ _ _ _ => rfl)
      (fun _ _ _ => rfl) inside other
  unfold line Network.connection
  rw [link, connections_startInterface]

end Starts

end Network

namespace ClassEffects

open Network Stage

variable {config : Config} {network next : Network} {id : Nat}

/-! ## Objects after an action -/

/-- What is at the positions of nodes after a class has acted on one of them. -/
theorem node_acted (definition : NodeClass) (inside : id < network.nodes.size) :
    (((network.enter .node definition.name (.node id)).giveInterfaces config
      (network.node id).interfaces definition.interfacePolicies).updateNode id
        (Node.withClass config definition)).node =
      Function.update network.node id (Node.withClass config definition (network.node id)) := by
  let given := (network.enter .node definition.name (.node id)).giveInterfaces config
    (network.node id).interfaces definition.interfacePolicies
  have same : given.node = network.node := by
    funext other
    rw [node_giveInterfaces, node_enter]
  have below : id < given.nodes.size := by
    rw [nodes_giveInterfaces, enter_eq]
    exact inside
  rw [node_updateNode_eq_update below, same]

/-- What is at the positions of connections after a class has acted on one of them. -/
theorem connection_acted (definition : ConnectionClass) (inside : id < network.connections.size) :
    ((network.enter .connection definition.name (.connection id)).updateConnection id
      (Connection.withClass config definition)).connection =
      Function.update network.connection id
        (Connection.withClass config definition (network.connection id)) := by
  rw [enter_eq]
  exact connection_updateConnection_eq_update inside _

/-- What is at the positions of interfaces after a class has acted on one of them. -/
theorem interface_acted (definition : InterfaceClass) (inside : id < network.interfaces.size) :
    (((network.enter .interface definition.name (.interface id)).widen id
      definition).updateInterface id (Interface.withClass config definition)).interface =
      Function.update network.interface id
        (Interface.withClass config definition (network.interface id)) := by
  let widened := (network.enter .interface definition.name (.interface id)).widen id definition
  have same : widened.interface = network.interface := by
    funext other
    rw [interface_widen, interface_enter]
  have below : id < widened.interfaces.size := by
    rw [interfaces_widen, enter_eq]
    exact inside
  rw [interface_updateInterface_eq_update below, same]

/-- What is at the positions of groups after a class has acted on one of them. -/
theorem group_acted (definition : GroupClass) (inside : id < network.groups.size) :
    ((network.enter .group definition.name (.group id)).updateGroup id
      (Group.withClass config definition)).group =
      Function.update network.group id (Group.withClass config definition (network.group id)) := by
  rw [enter_eq]
  exact group_updateGroup_eq_update inside _

/-- A class that acts on a node changes no other node. -/
theorem NodeActs.node (acts : NodeActs config id network next)
    (inside : id < network.nodes.size) :
    ∃ definition ∈ config.nodeClasses,
      (definition.primary = true → (network.node id).primaryClass = none) ∧
        next.node = Function.update network.node id
          (Node.withClass config definition (network.node id)) := by
  obtain ⟨definition, listed, _, first⟩ := acts
  exact ⟨definition, listed, first, node_acted definition inside⟩

/-- A class of a node may give policies to interfaces, and nothing else. -/
theorem NodeActs.interface_field {β : Type} {field : Interface → β}
    (keeps : ∀ interface policies, field { interface with policies } = field interface)
    (acts : NodeActs config id network next) (other : InterfaceId) :
    field (next.interface other) = field (network.interface other) := by
  obtain ⟨definition, _, _, _⟩ := acts
  let same : Frame :=
    { holds before after := field (after.interface other) = field (before.interface other)
      refl _ := rfl
      trans first second := second.trans first }
  have given : same.holds (network.enter .node definition.name (.node id))
      ((network.enter .node definition.name (.node id)).giveInterfaces config
        (network.node id).interfaces definition.interfacePolicies) :=
    giveInterfaces_holds (fun current port _ =>
      interface_updateInterface_field current (fun _ => keeps _ _) port other) _ _ _
  exact given.trans (by rw [interface_enter])

/-- A visit to a node leaves the connections as they are. -/
theorem NodeActs.connections (acts : NodeActs config id network next) :
    next.connections = network.connections := by
  obtain ⟨definition, _, _, _⟩ := acts
  rw [giveInterfaces_eq, enter_eq]
  rfl

/-- A visit to a node leaves the groups as they are. -/
theorem NodeActs.groups (acts : NodeActs config id network next) :
    next.groups = network.groups := by
  obtain ⟨definition, _, _, _⟩ := acts
  rw [giveInterfaces_eq, enter_eq]
  rfl

/-- A class that acts on a connection changes no other object. -/
theorem ConnectionActs.connection (acts : ConnectionActs config id network next)
    (inside : id < network.connections.size) :
    ∃ definition ∈ config.connectionClasses,
      (definition.primary = true → (network.connection id).primaryClass = none) ∧
        next.connection = Function.update network.connection id
          (Connection.withClass config definition (network.connection id)) := by
  obtain ⟨definition, listed, _, first⟩ := acts
  exact ⟨definition, listed, first, connection_acted definition inside⟩

/-- A visit to a connection leaves the nodes and the interfaces as they are. -/
theorem ConnectionActs.others (acts : ConnectionActs config id network next) :
    next.nodes = network.nodes ∧ next.interfaces = network.interfaces := by
  obtain ⟨definition, _, _, _⟩ := acts
  rw [enter_eq]
  exact ⟨rfl, rfl⟩

/-- A visit to a connection leaves the groups as they are. -/
theorem ConnectionActs.groups (acts : ConnectionActs config id network next) :
    next.groups = network.groups := by
  obtain ⟨definition, _, _, _⟩ := acts
  rw [enter_eq]
  rfl

/-- A class that acts on an interface changes it, and widens its connection. -/
theorem InterfaceActs.interface (acts : InterfaceActs config id network next)
    (inside : id < network.interfaces.size) :
    ∃ definition ∈ config.interfaceClasses,
      (definition.primary = true → (network.interface id).primaryClass = none ∧
        ∀ found, (network.interface id).connection = some found →
          (network.connection found).primaryClass = none) ∧
        next.interface = Function.update network.interface id
          (Interface.withClass config definition (network.interface id)) ∧
        ∀ other, next.connection other =
          if (network.interface id).connection = some other ∧ other < network.connections.size then
            (network.connection other).widened definition
          else network.connection other := by
  obtain ⟨definition, listed, _, first⟩ := acts
  refine ⟨definition, listed, first, interface_acted definition inside, fun other => ?_⟩
  change (Network.widen id definition (network.enter .interface definition.name
    (.interface id))).connection other = _
  unfold widen
  rw [interface_enter]
  cases link : (network.interface id).connection with
  | none => rw [connection_enter, if_neg fun found => nomatch found.1]
  | some found =>
    dsimp only
    rw [connection_updateConnection, connection_enter, enter_eq]
    simp only [Option.some_inj]

/-- A visit to an interface leaves the nodes as they are. -/
theorem InterfaceActs.nodes (acts : InterfaceActs config id network next) :
    next.nodes = network.nodes := by
  obtain ⟨definition, _, _, _⟩ := acts
  rw [widen_eq, enter_eq]
  rfl

/-- A visit to an interface leaves the groups as they are. -/
theorem InterfaceActs.groups (acts : InterfaceActs config id network next) :
    next.groups = network.groups := by
  obtain ⟨definition, _, _, _⟩ := acts
  rw [widen_eq, enter_eq]
  rfl

/-- A field of connections that classes of interfaces leave alone. -/
theorem InterfaceActs.connection_field {β : Type} {field : Connection → β}
    (keeps : ∀ connection layers isVirtual,
      field { connection with layers, isVirtual } = field connection)
    (acts : InterfaceActs config id network next) (other : ConnectionId) :
    field (next.connection other) = field (network.connection other) := by
  obtain ⟨definition, _, _, _⟩ := acts
  let entered := network.enter .interface definition.name (.interface id)
  have widened : field ((entered.widen id definition).connection other) =
      field (entered.connection other) := by
    unfold widen
    split
    · exact entered.connection_updateConnection_field (fun _ => keeps _ _ _) _ other
    · rfl
  exact widened.trans (congrArg field (connection_enter _ _ _ other))

/-- A class that acts on an interface may widen the connections of interfaces. -/
theorem InterfaceActs.line (acts : InterfaceActs config id network next)
    (inside : id < network.interfaces.size) (other : InterfaceId) :
    next.line other = network.line other ∨ ∃ connection definition,
      network.line other = some connection ∧
        next.line other = some (connection.widened definition) := by
  obtain ⟨definition, _, _, acted, connections⟩ := acts.interface inside
  have link : (next.interface other).connection = (network.interface other).connection := by
    rw [acted]
    by_cases here : other = id
    · rw [here, Function.update_self]
      rfl
    · rw [Function.update_of_ne here]
  unfold Network.line
  rw [link]
  cases (network.interface other).connection with
  | none => exact .inl rfl
  | some found =>
    rw [Option.map_some, Option.map_some, connections]
    split
    · exact .inr ⟨network.connection found, definition, rfl, rfl⟩
    · exact .inl rfl

/-- A class that acts on a group changes no other group. -/
theorem GroupActs.group (acts : GroupActs config id network next)
    (inside : id < network.groups.size) :
    ∃ definition ∈ config.groupClasses,
      next.group = Function.update network.group id
        (Group.withClass config definition (network.group id)) := by
  obtain ⟨definition, listed, _⟩ := acts
  exact ⟨definition, listed, group_acted definition inside⟩

/-- Only classes of groups change groups. -/
theorem ClassStep.groups (step : ClassStep config network next) :
    next.groups = network.groups ∨
      ∃ id < network.groups.size, GroupActs config id network next := by
  cases step with
  | startNode id => exact .inl rfl
  | node id _ _ acts => exact .inl acts.groups
  | startConnection id => exact .inl rfl
  | connection id _ _ acts => exact .inl acts.groups
  | startInterface id => exact .inl (groups_startInterface network id)
  | interface id _ _ acts => exact .inl acts.groups
  | group id _ inside acts => exact .inr ⟨id, inside, acts⟩

/-- Classes of groups change no other objects. -/
theorem GroupActs.sameObjects (acts : GroupActs config id network next) :
    sameObjects.holds network next := by
  obtain ⟨definition, _, _⟩ := acts
  rw [enter_eq]
  exact ⟨rfl, rfl, rfl⟩

/-! ## Rounds -/

open Relation (ReflTransGen)

/-- What the starts of visits and the actions of classes keep, a round keeps. -/
theorem forM_keeps {Field : Type} (field : Network → Field) {ids : List Nat}
    {stage : Nat → Stage PUnit} (started : Network → Nat → Network)
    {acts : Nat → Network → Network → Prop} {after : Network}
    (visit : ∀ id before next, (stage id).outcome before = (.ok ⟨⟩, next) →
      ReflTransGen (acts id) (started before id) next)
    (starts : ∀ before id, field (started before id) = field before)
    (keeps : ∀ id before next, acts id before next → field next = field before)
    (run : (ids.forM stage).outcome network = (.ok ⟨⟩, after)) : field after = field network := by
  refine outcome_forM_induction (fun current => field current = field network)
    (fun id _ before next step known => ?_) run rfl
  have chain := visit id before next step
  clear step
  induction chain with
  | refl => exact (starts before id).trans known
  | tail _ last inductionHypothesis => exact (keeps id _ _ last).trans inductionHypothesis

/-- The round of groups changes no other objects. -/
theorem resolveGroups_sameObjects {after : Network}
    (run : (network.groupIds.forM (resolveGroup config)).outcome network = (.ok (), after)) :
    sameObjects.holds network after := by
  let others (current : Network) := (current.nodes, current.interfaces, current.connections)
  have kept : others after = others network := by
    refine forM_keeps others (fun before _ => before) (fun _ _ _ => resolveGroup_acts)
      (fun _ _ => rfl) (fun id before next acts => ?_) run
    obtain ⟨nodes, interfaces, connections⟩ := acts.sameObjects
    simp only [others, nodes, interfaces, connections]
  simp only [others, Prod.mk.injEq] at kept
  exact kept

/-- The classes of the network change no objects besides it. -/
theorem applyNetworkClasses_sameObjects (definitions : List NetworkClass) (network : Network) :
    sameObjects.holds network (definitions.foldl applyNetworkClass network) := by
  refine sameObjects.foldl (fun current => current) (fun current definition => ?_) network _
  unfold applyNetworkClass
  rw [enter_eq]
  exact ⟨rfl, rfl, rfl⟩

/-- The classes of the network leave groups alone. -/
theorem applyNetworkClasses_groups (definitions : List NetworkClass) (network : Network) :
    (definitions.foldl applyNetworkClass network).groups = network.groups := by
  refine List.foldlRecOn (motive := fun current : Network => current.groups = network.groups)
    definitions applyNetworkClass rfl fun current same definition _ => ?_
  rw [applyNetworkClass, enter_eq]
  exact same

/-- The classes of nodes, connections and interfaces act in three rounds, and after that
these objects do not change any more. -/
theorem resolveClasses_rounds {extra : ExtraClasses} {after : Network}
    (run : (resolveClasses config extra).outcome network = (.ok (), after)) :
    ∃ nodes connections interfaces,
      (network.nodeIds.forM (resolveNode config extra.node)).outcome network = (.ok (), nodes) ∧
        (nodes.connectionIds.forM (resolveConnection config extra.connection)).outcome nodes =
          (.ok (), connections) ∧
        (connections.interfaceIds.forM (resolveInterface config extra.interface)).outcome
          connections = (.ok (), interfaces) ∧
        sameObjects.holds interfaces after := by
  obtain ⟨nodes, connections, interfaces, groups, nodesRun, connectionsRun, interfacesRun,
    groupsRun, rfl⟩ := resolveClasses_eq_ok run
  exact ⟨nodes, connections, interfaces, nodesRun, connectionsRun, interfacesRun,
    sameObjects.trans (resolveGroups_sameObjects groupsRun)
      (applyNetworkClasses_sameObjects config.networkClasses groups)⟩

/-- The round of nodes leaves connections alone, and gives interfaces policies only. -/
theorem resolveNodes_others {extra : List String} {after : Network} {β : Type}
    (field : Interface → β)
    (keeps : ∀ interface policies, field { interface with policies } = field interface)
    (run : (network.nodeIds.forM (resolveNode config extra)).outcome network = (.ok (), after)) :
    after.connections = network.connections ∧
      ∀ id, field (after.interface id) = field (network.interface id) := by
  constructor
  · exact forM_keeps Network.connections startNode (fun _ _ _ => resolveNode_acts)
      (fun _ _ => rfl) (fun _ _ _ => NodeActs.connections) run
  · exact congrFun (forM_keeps (fun current id => field (current.interface id)) startNode
      (fun _ _ _ => resolveNode_acts) (fun _ _ => rfl)
      (fun _ _ _ acts => funext (NodeActs.interface_field keeps acts)) run)

/-- The round of connections leaves nodes and interfaces alone. -/
theorem resolveConnections_others {extra : List String} {after : Network}
    (run : (network.connectionIds.forM (resolveConnection config extra)).outcome network =
      (.ok (), after)) :
    after.nodes = network.nodes ∧ after.interfaces = network.interfaces := by
  constructor
  · exact forM_keeps Network.nodes (startConnection config) (fun _ _ _ => resolveConnection_acts)
      (fun _ _ => rfl) (fun _ _ _ acts => (ConnectionActs.others acts).1) run
  · exact forM_keeps Network.interfaces (startConnection config)
      (fun _ _ _ => resolveConnection_acts) (fun _ _ => rfl)
      (fun _ _ _ acts => (ConnectionActs.others acts).2) run

/-! ## Visits of all objects -/

/-- The start of a visit makes good nodes of bare ones, and classes keep them good. -/
structure NodeVisits (config : Config) (bare good : Node → Prop) : Prop where
  starts : ∀ node, bare node → good { node with stem := nodeStem }
  acts : ∀ node, ∀ definition ∈ config.nodeClasses,
    (definition.primary = true → node.primaryClass = none) → good node →
      good (Node.withClass config definition node)

/-- More layers and classes keep connections good. -/
structure ConnectionVisits (config : Config) (good : Connection → Prop) : Prop where
  widens : ∀ connection layers isVirtual, good connection →
    good { connection with layers, isVirtual }
  acts : ∀ connection, ∀ definition ∈ config.connectionClasses,
    (definition.primary = true → connection.primaryClass = none) → good connection →
      good (Connection.withClass config definition connection)

/-- The start of a visit makes good interfaces of bare ones, if their connections are sound;
classes of the interfaces keep them good, and classes at the other ends of their connections. -/
structure InterfaceVisits (config : Config) (sound : Connection → Prop)
    (bare : Interface → Prop) (good : Option Connection → Interface → Prop) : Prop where
  starts : ∀ isVirtual line interface, (∀ connection ∈ line, sound connection) → bare interface →
    good line (interface.started config isVirtual line)
  widens : ∀ connection layers isVirtual interface, good (some connection) interface →
    good (some { connection with layers, isVirtual }) interface
  acts : ∀ line interface, ∀ definition ∈ config.interfaceClasses,
    (definition.primary = true → interface.primaryClass = none ∧
      ∀ connection ∈ line, connection.primaryClass = none) → good line interface →
        good line (Interface.withClass config definition interface)

section Visits

variable {extra : List String} {after : Network} {bareNode goodNode : Node → Prop}
  {sound : Connection → Prop} {bare : Interface → Prop}
  {good : Option Connection → Interface → Prop}

/-- After its visit a node is good, and no other node has changed. -/
theorem NodeVisits.visit (visits : NodeVisits config bareNode goodNode)
    (inside : id < network.nodes.size) (start : bareNode (network.node id))
    (run : (resolveNode config extra id).outcome network = (.ok (), after)) :
    goodNode (after.node id) ∧ ∀ other, other ≠ id → after.node other = network.node other := by
  have started : (network.startNode id).node = Function.update network.node id
      { network.node id with stem := nodeStem } := node_updateNode_eq_update inside _
  have chain := resolveNode_acts run
  clear run
  suffices visited : after.nodes.size = network.nodes.size ∧ goodNode (after.node id) ∧
      ∀ other, other ≠ id → after.node other = network.node other from visited.2
  induction chain with
  | refl =>
    refine ⟨network.size_nodes_updateNode id _, ?_, fun other different => ?_⟩
    · rw [started, Function.update_self]
      exact visits.starts _ start
    · rw [started, Function.update_of_ne different]
  | @tail current next _ last inductionHypothesis =>
    obtain ⟨size, holds, others⟩ := inductionHypothesis
    have below : id < current.nodes.size := size.symm ▸ inside
    obtain ⟨definition, listed, first, acted⟩ := last.node below
    refine ⟨(congrArg Counts.nodes (ClassStep.node id next below last).counts).trans size, ?_,
      fun other different => ?_⟩
    · rw [acted, Function.update_self]
      exact visits.acts _ definition listed first holds
    · rw [acted, Function.update_of_ne different]
      exact others other different

/-- After the round of nodes all nodes are good. -/
theorem NodeVisits.round (visits : NodeVisits config bareNode goodNode)
    (start : ∀ id, bareNode (network.node id))
    (run : (network.nodeIds.forM (resolveNode config extra)).outcome network = (.ok (), after)) :
    ∀ id < after.nodes.size, goodNode (after.node id) := by
  let visited (position : Nat) (current : Network) : Prop :=
    current.counts = network.counts ∧ (∀ id < position, goodNode (current.node id)) ∧
      ∀ id, position ≤ id → bareNode (current.node id)
  have final : visited network.nodes.size after := by
    refine outcome_forM_range visited (fun position inside before next step known => ?_) run
      ⟨rfl, fun id below => absurd below (Nat.not_lt_zero id), fun id _ => start id⟩
    obtain ⟨counts, done, rest⟩ := known
    obtain ⟨holds, others⟩ := visits.visit
      (Nat.lt_of_lt_of_eq inside (congrArg Counts.nodes counts).symm)
      (rest position (Nat.le_refl _)) step
    refine ⟨((resolveNode_within counted_tolerant extra position).holds step).trans counts,
      fun id below => ?_, fun id above => ?_⟩
    · rcases Nat.lt_succ_iff_lt_or_eq.mp below with earlier | rfl
      · rw [others id (Nat.ne_of_lt earlier)]
        exact done id earlier
      · exact holds
    · rw [others id (Nat.ne_of_gt above)]
      exact rest id (Nat.le_of_succ_le above)
  exact fun id inside =>
    final.2.1 id (Nat.lt_of_lt_of_eq inside (congrArg Counts.nodes final.1))

/-- The round of connections keeps them good. -/
theorem ConnectionVisits.round (visits : ConnectionVisits config sound)
    (start : ∀ id, sound (network.connection id))
    (run : (network.connectionIds.forM (resolveConnection config extra)).outcome network =
      (.ok (), after)) : ∀ id, sound (after.connection id) := by
  let steady (current : Network) : Prop :=
    current.counts = network.counts ∧ ∀ id, sound (current.connection id)
  refine (outcome_forM_induction steady (fun id listed before next step known => ?_) run
    ⟨rfl, start⟩).2
  have chain := resolveConnection_acts step
  clear step
  induction chain with
  | refl =>
    refine ⟨(ClassStep.startConnection id).counts.trans known.1, fun other => ?_⟩
    unfold startConnection
    rw [connection_updateConnection]
    split
    · exact visits.widens _ _ _ (known.2 other)
    · exact known.2 other
  | @tail current next _ last inductionHypothesis =>
    obtain ⟨counts, holds⟩ := inductionHypothesis
    have inside : id < current.connections.size := Nat.lt_of_lt_of_eq (List.mem_range.mp listed)
      (congrArg Counts.connections counts).symm
    obtain ⟨definition, defined, first, acted⟩ := last.connection inside
    refine ⟨(ClassStep.connection id next inside last).counts.trans counts, fun other => ?_⟩
    rw [acted]
    by_cases here : other = id
    · rw [here, Function.update_self]
      exact visits.acts _ definition defined first (holds id)
    · rw [Function.update_of_ne here]
      exact holds other

/-- Classes of interfaces keep connections good. -/
theorem ConnectionVisits.interfaceActs (visits : ConnectionVisits config sound)
    {next : Network} (acts : InterfaceActs config id network next)
    (inside : id < network.interfaces.size) (start : ∀ id, sound (network.connection id)) :
    ∀ id, sound (next.connection id) := by
  obtain ⟨definition, _, _, _, connections⟩ := acts.interface inside
  intro other
  rw [connections]
  split
  · exact visits.widens _ _ _ (start other)
  · exact start other

/-- A class that acts on an interface keeps it good, and whatever depends on the connections
of others. -/
theorem InterfaceVisits.interfaceActs (visits : InterfaceVisits config sound bare good)
    {next : Network} (acts : InterfaceActs config id network next)
    (inside : id < network.interfaces.size) {other : InterfaceId}
    (holds : good (network.line other) (network.interface other)) :
    good (next.line other) (next.interface other) := by
  have acted : good (network.line other) (next.interface other) := by
    obtain ⟨definition, listed, first, changed, _⟩ := acts.interface inside
    rw [changed]
    by_cases here : other = id
    · subst here
      rw [Function.update_self]
      refine visits.acts _ _ definition listed (fun primary => ?_) holds
      obtain ⟨free, lineFree⟩ := first primary
      refine ⟨free, fun connection linked => ?_⟩
      obtain ⟨found, link, rfl⟩ := Option.map_eq_some_iff.mp linked
      exact lineFree found link
    · rw [Function.update_of_ne here]
      exact holds
  rcases acts.line inside other with same | ⟨connection, definition, before, widened⟩
  · rw [same]
    exact acted
  · rw [widened]
    rw [before] at acted
    exact visits.widens _ _ _ _ acted

/-- After its visit an interface is good, like all interfaces that were good, and the others
are still bare. -/
theorem InterfaceVisits.visit (visits : InterfaceVisits config sound bare good)
    (lines : ConnectionVisits config sound) (inside : id < network.interfaces.size)
    (connections : ∀ id, sound (network.connection id)) (start : bare (network.interface id))
    (run : (resolveInterface config extra id).outcome network = (.ok (), after)) :
    (∀ other, other = id ∨ good (network.line other) (network.interface other) →
        good (after.line other) (after.interface other)) ∧
      (∀ other, other ≠ id → after.interface other = network.interface other) ∧
      ∀ other, sound (after.connection other) := by
  have started : (network.startInterface config id).interface = Function.update
      network.interface id _ := interface_startInterface network id inside
  have chain := resolveInterface_acts run
  clear run
  suffices visited : after.interfaces.size = network.interfaces.size ∧ _ from visited.2
  induction chain with
  | refl =>
    refine ⟨congrArg Counts.interfaces (ClassStep.startInterface id).counts,
      fun other known => ?_, fun other different => ?_, fun other => ?_⟩
    · rw [line_startInterface network id inside, started]
      by_cases here : other = id
      · subst here
        rw [Function.update_self]
        refine visits.starts _ _ _ (fun connection linked => ?_) start
        obtain ⟨found, _, rfl⟩ := Option.map_eq_some_iff.mp linked
        exact connections found
      · rw [Function.update_of_ne here]
        exact known.resolve_left here
    · rw [started, Function.update_of_ne different]
    · rw [Network.connection, connections_startInterface]
      exact connections other
  | @tail current next _ last inductionHypothesis =>
    obtain ⟨size, holds, others, steady⟩ := inductionHypothesis
    have below : id < current.interfaces.size := size.symm ▸ inside
    refine ⟨(congrArg Counts.interfaces (ClassStep.interface id next below last).counts).trans size,
      fun other known => visits.interfaceActs last below (holds other known),
      fun other different => ?_, lines.interfaceActs last below steady⟩
    obtain ⟨definition, _, _, changed, _⟩ := last.interface below
    rw [changed, Function.update_of_ne different]
    exact others other different

/-- After the round of interfaces all interfaces are good, and all connections still are. -/
theorem InterfaceVisits.round (visits : InterfaceVisits config sound bare good)
    (lines : ConnectionVisits config sound) (connections : ∀ id, sound (network.connection id))
    (start : ∀ id < network.interfaces.size, bare (network.interface id))
    (run : (network.interfaceIds.forM (resolveInterface config extra)).outcome network =
      (.ok (), after)) :
    (∀ id < after.interfaces.size, good (after.line id) (after.interface id)) ∧
      ∀ id, sound (after.connection id) := by
  let visited (position : Nat) (current : Network) : Prop :=
    current.counts = network.counts ∧
      (∀ id < position, good (current.line id) (current.interface id)) ∧
      (∀ id < network.interfaces.size, position ≤ id → bare (current.interface id)) ∧
      ∀ id, sound (current.connection id)
  have final : visited network.interfaces.size after := by
    refine outcome_forM_range visited (fun position inside before next step known => ?_) run
      ⟨rfl, fun id below => absurd below (Nat.not_lt_zero id), fun id below _ => start id below,
        connections⟩
    obtain ⟨counts, done, rest, steady⟩ := known
    obtain ⟨holds, others, kept⟩ := visits.visit lines
      (Nat.lt_of_lt_of_eq inside (congrArg Counts.interfaces counts).symm) steady
      (rest position inside (Nat.le_refl _)) step
    refine ⟨((resolveInterface_within counted_tolerant extra position).holds step).trans counts,
      fun id below => holds id ?_, fun id below above => ?_, kept⟩
    · exact (Nat.lt_succ_iff_lt_or_eq.mp below).symm.imp_right (done id)
    · rw [others id (Nat.ne_of_gt above)]
      exact rest id below (Nat.le_of_succ_le above)
  exact ⟨fun id inside =>
    final.2.1 id (Nat.lt_of_lt_of_eq inside (congrArg Counts.interfaces final.1)), final.2.2.2⟩

/-- The round of interfaces leaves nodes alone. -/
theorem resolveInterfaces_nodes
    (run : (network.interfaceIds.forM (resolveInterface config extra)).outcome network =
      (.ok (), after)) : after.nodes = network.nodes :=
  forM_keeps Network.nodes (startInterface config) (fun _ _ _ => resolveInterface_acts)
    nodes_startInterface (fun _ _ _ => InterfaceActs.nodes) run

/-- The round of interfaces gives connections layers and marks only. -/
theorem resolveInterfaces_connections {β : Type} (field : Connection → β)
    (keeps : ∀ connection layers isVirtual,
      field { connection with layers, isVirtual } = field connection)
    (run : (network.interfaceIds.forM (resolveInterface config extra)).outcome network =
      (.ok (), after)) :
    after.connections.size = network.connections.size ∧
      ∀ id, field (after.connection id) = field (network.connection id) := by
  constructor
  · exact congrArg Counts.connections ((within_forM fun id _ =>
      resolveInterface_within counted_tolerant extra id).holds run)
  · exact congrFun (forM_keeps (fun current id => field (current.connection id))
      (startInterface config) (fun _ _ _ => resolveInterface_acts)
      (fun before id => by simp only [Network.connection, connections_startInterface])
      (fun _ _ _ acts => funext (InterfaceActs.connection_field keeps acts)) run)

/-- Classes make all objects of a network good. -/
theorem resolveClasses_visits {extra : ExtraClasses}
    (nodeVisits : NodeVisits config bareNode goodNode)
    (connectionVisits : ConnectionVisits config sound)
    (interfaceVisits : InterfaceVisits config sound bare good)
    (policies : ∀ interface policies, bare interface → bare { interface with policies })
    (nodes : ∀ id, bareNode (network.node id)) (connections : ∀ id, sound (network.connection id))
    (interfaces : ∀ id, bare (network.interface id))
    (run : (resolveClasses config extra).outcome network = (.ok (), after)) :
    (∀ id < after.nodes.size, goodNode (after.node id)) ∧
      (∀ id, sound (after.connection id)) ∧
      ∀ id < after.interfaces.size, good (after.line id) (after.interface id) := by
  obtain ⟨first, second, third, nodesRun, connectionsRun, interfacesRun, same⟩ :=
    resolveClasses_rounds run
  -- The round of nodes gives interfaces policies, which do not matter for being bare.
  let stripped (interface : Interface) : Interface := { interface with policies := {} }
  obtain ⟨keptLines, keptPorts⟩ := resolveNodes_others stripped (fun _ _ => rfl) nodesRun
  obtain ⟨keptNodes, sameInterfaces⟩ := resolveConnections_others connectionsRun
  have linesGood := connectionVisits.round (fun id => by
    rw [Network.connection, keptLines]
    exact connections id) connectionsRun
  have portsBare (id : InterfaceId) : bare (second.interface id) := by
    rw [Network.interface, sameInterfaces]
    have kept := policies _ {} (interfaces id)
    change bare (stripped (network.interface id)) at kept
    rw [← keptPorts id] at kept
    exact policies (stripped (first.interface id)) _ kept
  obtain ⟨portsGood, linesStillGood⟩ :=
    interfaceVisits.round connectionVisits linesGood (fun id _ => portsBare id) interfacesRun
  obtain ⟨sameNodes, sameRest, sameLines⟩ := same
  refine ⟨fun id inside => ?_, fun id => ?_, fun id inside => ?_⟩
  · have same : after.nodes = first.nodes :=
      sameNodes.trans ((resolveInterfaces_nodes interfacesRun).trans keptNodes)
    rw [same] at inside
    rw [Network.node, same]
    exact nodeVisits.round nodes nodesRun id inside
  · rw [Network.connection, sameLines]
    exact linesStillGood id
  · rw [sameRest] at inside
    unfold Network.line Network.interface Network.connection
    rw [sameRest, sameLines]
    exact portsGood id inside

end Visits

/-- What every class keeps of a group, all groups have after all rounds. -/
theorem resolveClasses_groups {extra : ExtraClasses} {after : Network} {good : Group → Prop}
    (acts : ∀ group, ∀ definition ∈ config.groupClasses, good group →
      good (Group.withClass config definition group))
    (start : ∀ id, good (network.group id))
    (run : (resolveClasses config extra).outcome network = (.ok (), after)) :
    ∀ id, good (after.group id) := by
  obtain ⟨classified, chain, rfl⟩ := resolveClasses_steps run
  clear run
  have all : ∀ id, good (classified.group id) := by
    induction chain with
    | refl => exact start
    | @tail current next _ last inductionHypothesis =>
      rcases last.groups with same | ⟨id, inside, acted⟩
      · intro other
        rw [group, same]
        exact inductionHypothesis other
      · obtain ⟨definition, listed, changed⟩ := acted.group inside
        intro other
        rw [changed]
        by_cases here : other = id
        · rw [here, Function.update_self]
          exact acts _ definition listed (inductionHypothesis id)
        · rw [Function.update_of_ne here]
          exact inductionHypothesis other
  intro id
  rw [group, applyNetworkClasses_groups]
  exact all id

end ClassEffects

end TopoPlan
