import Mathlib.Data.List.Induction
import TopoPlan.Proofs.Network.ClassVisits

/-!
# Classes of objects

The classes of an object are named by its labels, implicit classes and extensions, as
`classNames` says.  A visit takes up these names one after the other, and a class that the
object has already does not act again.  So after all rounds every object has the first
occurrences of its names, in their order, as `listsNamedClasses_of_resolveClasses` says.
-/

namespace TopoPlan

/-- First occurrences after one more name. -/
theorem eraseDups_concat (names : List String) (name : String) :
    (names ++ [name]).eraseDups =
      if name ∈ names then names.eraseDups else names.eraseDups ++ [name] := by
  rw [List.eraseDups_append, List.removeAll]
  by_cases listed : name ∈ names
  · simp [listed]
  · simp [listed, List.eraseDups_cons]

namespace Network

/-- The frame of stages that leave labels alone. -/
def sameLabels : Frame where
  holds before after := (∀ id, (after.node id).labels = (before.node id).labels) ∧
    (∀ id, (after.interface id).labels = (before.interface id).labels) ∧
    (∀ id, (after.connection id).labels = (before.connection id).labels) ∧
    ∀ id, (after.group id).labels = (before.group id).labels
  refl _ := ⟨fun _ => rfl, fun _ => rfl, fun _ => rfl, fun _ => rfl⟩
  trans first second := ⟨fun id => (second.1 id).trans (first.1 id),
    fun id => (second.2.1 id).trans (first.2.1 id),
    fun id => (second.2.2.1 id).trans (first.2.2.1 id),
    fun id => (second.2.2.2 id).trans (first.2.2.2 id)⟩

/-- Classes do not change labels. -/
theorem sameLabels_tolerant : sameLabels.Tolerant where
  node network id _ keeps :=
    ⟨network.node_updateNode_field (fun node => congrArg (·.1) (keeps node)) id,
      fun _ => rfl, fun _ => rfl, fun _ => rfl⟩
  interface network id _ keeps :=
    ⟨fun _ => rfl, network.interface_updateInterface_field
      (fun interface => congrArg (·.2.2.1) (keeps interface)) id, fun _ => rfl, fun _ => rfl⟩
  connection network id _ keeps :=
    ⟨fun _ => rfl, fun _ => rfl, network.connection_updateConnection_field
      (fun connection => congrArg (·.2.2.1) (keeps connection)) id, fun _ => rfl⟩
  group network id _ keeps :=
    ⟨fun _ => rfl, fun _ => rfl, fun _ => rfl, network.group_updateGroup_field
      (fun group => congrArg (·.2.1) (keeps group)) id⟩
  enter network _ _ _ := by
    rw [enter_eq]
    exact sameLabels.refl network
  parameters network _ := sameLabels.refl network

/-- No object has a class. -/
structure Unclassified (network : Network) : Prop where
  nodes : ∀ id, (network.node id).classes = []
  connections : ∀ id, (network.connection id).classes = []
  interfaces : ∀ id, (network.interface id).classes = []
  groups : ∀ id, (network.group id).classes = []

/-- Every object has the classes that are named for it, each name where it occurs first. -/
structure ListsNamedClasses (config : Config) (extra : ExtraClasses) (network : Network) :
    Prop where
  nodes : ∀ id < network.nodes.size, (network.node id).classes =
    (ClassEffects.classNames config .node (network.node id).labels extra.node).eraseDups
  connections : ∀ id < network.connections.size, (network.connection id).classes =
    (ClassEffects.classNames config .connection (network.connection id).labels
      extra.connection).eraseDups
  interfaces : ∀ id < network.interfaces.size, (network.interface id).classes =
    (ClassEffects.classNames config .interface (network.interface id).labels
      extra.interface).eraseDups
  groups : ∀ id < network.groups.size, (network.group id).classes =
    (ClassEffects.classNames config .group (network.group id).labels []).eraseDups

end Network

namespace ClassEffects

open Network Stage

variable {config : Config} {network next after : Network} {id : Nat} {extra : List String}

/-! ## Names of one object -/

/-- One of the objects of a kind has got the class of a name, if it had not, and the others
keep the classes that they had. -/
def Gains (classes : Network → Nat → List String) (id : Nat) (name : String)
    (network after : Network) : Prop :=
  after.counts = network.counts ∧ classes after =
    if name ∈ classes network id then classes network
    else Function.update (classes network) id (classes network id ++ [name])

section Names

variable {classes : Network → Nat → List String}

/-- An object that takes up some names has their first occurrences. -/
theorem classes_of_names {turn : String → Stage PUnit} {names : List String}
    (each : ∀ name before next, before.counts = network.counts →
      (turn name).outcome before = (.ok ⟨⟩, next) → Gains classes id name before next)
    (start : classes network id = [])
    (run : (names.forM turn).outcome network = (.ok ⟨⟩, after)) :
    after.counts = network.counts ∧
      classes after = Function.update (classes network) id names.eraseDups := by
  induction names using List.reverseRecOn generalizing after with
  | nil =>
    cases run
    refine ⟨rfl, ?_⟩
    rw [List.eraseDups_nil, ← start, Function.update_eq_self]
  | append_singleton names name inductionHypothesis =>
    obtain ⟨middle, earlier, last⟩ := outcome_forM_append_eq_ok.mp run
    obtain ⟨_, turned, done⟩ := outcome_forM_cons_eq_ok.mp last
    cases done
    obtain ⟨counts, known⟩ := inductionHypothesis earlier
    obtain ⟨same, gained⟩ := each name middle _ counts turned
    refine ⟨same.trans counts, ?_⟩
    rw [gained, known, Function.update_self, Function.update_idem, eraseDups_concat]
    simp only [List.mem_eraseDups]
    split <;> rfl

/-- Objects that are visited one after the other have the classes of their own visits. -/
theorem classes_of_round {stage : Nat → Stage PUnit} (size : Counts → Nat)
    (labels : Network → Nat → Labels) (classes : Network → Nat → List String)
    (named : Labels → List String)
    (visit : ∀ id before next, id < size before.counts →
      (stage id).outcome before = (.ok ⟨⟩, next) → classes before id = [] →
        next.counts = before.counts ∧ labels next = labels before ∧
          classes next = Function.update (classes before) id (named (labels before id)).eraseDups)
    (start : ∀ id, classes network id = [])
    (run : ((List.range (size network.counts)).forM stage).outcome network = (.ok ⟨⟩, after)) :
    ∀ id < size after.counts, classes after id = (named (labels after id)).eraseDups := by
  let visited (position : Nat) (current : Network) : Prop :=
    current.counts = network.counts ∧
      (∀ id < position, classes current id = (named (labels current id)).eraseDups) ∧
      ∀ id, position ≤ id → classes current id = []
  have final : visited (size network.counts) after := by
    refine outcome_forM_range visited (fun position inside before next step known => ?_) run
      ⟨rfl, fun id below => absurd below (Nat.not_lt_zero id), fun id _ => start id⟩
    obtain ⟨counts, done, rest⟩ := known
    obtain ⟨same, sameLabels, visited⟩ := visit position before next
      (Nat.lt_of_lt_of_eq inside (congrArg size counts).symm) step
      (rest position (Nat.le_refl _))
    refine ⟨same.trans counts, fun id below => ?_, fun id above => ?_⟩
    · rw [visited, sameLabels]
      rcases Nat.lt_succ_iff_lt_or_eq.mp below with earlier | rfl
      · rw [Function.update_of_ne (Nat.ne_of_lt earlier)]
        exact done id earlier
      · rw [Function.update_self]
    · rw [visited, Function.update_of_ne (Nat.ne_of_gt above)]
      exact rest id (Nat.le_of_succ_le above)
  exact fun id inside => final.2.1 id (Nat.lt_of_lt_of_eq inside (congrArg size final.1))

/-- The class of a name acts on an object unless the object has it already. -/
theorem gains_of_act {Class : Type} {nameOf : Class → String} {definitions : List Class}
    {definition : Class} {name : String} {act : Stage PUnit}
    (classes : Network → Nat → List String)
    (defined : definitions.find? (nameOf · == name) = some definition)
    (run : Stage.outcome (if !(classes network id).contains (nameOf definition) then act
      else pure ()) network = (.ok ⟨⟩, after))
    (acts : definition ∈ definitions → nameOf definition ∉ classes network id →
      act.outcome network = (.ok ⟨⟩, after) → after.counts = network.counts ∧ classes after =
        Function.update (classes network) id (classes network id ++ [nameOf definition])) :
    Gains classes id name network after := by
  obtain rfl : nameOf definition = name := by simpa using List.find?_some defined
  split at run
  case isTrue fresh =>
    have new : nameOf definition ∉ classes network id := by simpa using fresh
    obtain ⟨counts, acted⟩ := acts (List.mem_of_find?_eq_some defined) new run
    exact ⟨counts, acted.trans (if_neg new).symm⟩
  case isFalse listed =>
    cases run
    exact ⟨rfl, (if_pos (by simpa using listed)).symm⟩

end Names

/-! ## Visits -/

/-- The classes of nodes, by position. -/
def nodeClasses (network : Network) (id : NodeId) : List String :=
  (network.node id).classes

/-- The classes of connections, by position. -/
def connectionClasses (network : Network) (id : ConnectionId) : List String :=
  (network.connection id).classes

/-- The classes of interfaces, by position. -/
def interfaceClasses (network : Network) (id : InterfaceId) : List String :=
  (network.interface id).classes

/-- The classes of groups, by position. -/
def groupClasses (network : Network) (id : GroupId) : List String :=
  (network.group id).classes

/-- The classes of objects when one of the objects has changed. -/
theorem classes_update {Object : Type} (classes : Object → List String) {before after : Nat → Object}
    {object : Object} (changed : after = Function.update before id object) :
    (fun other => classes (after other)) =
      Function.update (fun other => classes (before other)) id (classes object) := by
  rw [changed]
  exact Function.comp_update classes before id object

/-- A visited node has the classes that are named for it. -/
theorem resolveNode_classes (inside : id < network.nodes.size)
    (run : (resolveNode config extra id).outcome network = (.ok (), after))
    (start : (network.node id).classes = []) :
    nodeClasses after = Function.update (nodeClasses network) id
      (classNames config .node (network.node id).labels extra).eraseDups := by
  have kept (other : NodeId) :
      ((network.startNode id).node other).classes = (network.node other).classes :=
    network.node_updateNode_field (fun _ => by rfl) id other
  have started : nodeClasses (network.startNode id) = nodeClasses network := funext kept
  have begun : ClassStep config network (network.startNode id) := .startNode id
  rw [resolveNode, outcome_get_bind, outcome_modify_bind] at run
  rw [← started]
  refine (classes_of_names (fun name before next same turn => ?_) ((kept id).trans start) run).2
  rw [outcome_get_bind] at turn
  obtain ⟨definition, current, found, act⟩ := outcome_bind_eq_ok.mp turn
  obtain ⟨defined, rfl⟩ := outcome_require_eq_ok.mp found
  refine gains_of_act nodeClasses defined act fun listed new acted => ?_
  have below : id < current.nodes.size :=
    Nat.lt_of_lt_of_eq inside (congrArg Counts.nodes (same.trans begun.counts)).symm
  obtain ⟨rfl, first⟩ := applyNodeClass_eq_ok acted
  have step : ClassStep config current _ := .node id _ below (.intro definition listed new first)
  exact ⟨step.counts, classes_update Node.classes (node_acted definition below)⟩

/-- A visited connection has the classes that are named for it. -/
theorem resolveConnection_classes (inside : id < network.connections.size)
    (run : (resolveConnection config extra id).outcome network = (.ok (), after))
    (start : (network.connection id).classes = []) :
    connectionClasses after = Function.update (connectionClasses network) id
      (classNames config .connection (network.connection id).labels extra).eraseDups := by
  have kept (other : ConnectionId) :
      ((network.startConnection config id).connection other).classes =
        (network.connection other).classes :=
    network.connection_updateConnection_field (fun _ => by rfl) id other
  have started : connectionClasses (network.startConnection config id) =
      connectionClasses network := funext kept
  have counts : (network.startConnection config id).counts = network.counts :=
    (ClassStep.startConnection id).counts
  rw [resolveConnection, outcome_get_bind] at run
  dsimp only at run
  rw [outcome_modify_bind] at run
  rw [← started]
  refine (classes_of_names (fun name before next same turn => ?_) ((kept id).trans start) run).2
  obtain ⟨definition, current, found, act⟩ := outcome_bind_eq_ok.mp turn
  obtain ⟨defined, rfl⟩ := outcome_require_eq_ok.mp found
  rw [outcome_get_bind] at act
  refine gains_of_act connectionClasses defined act fun listed new acted => ?_
  have below : id < current.connections.size :=
    Nat.lt_of_lt_of_eq inside (congrArg Counts.connections (same.trans counts)).symm
  obtain ⟨rfl, first⟩ := applyConnectionClass_eq_ok acted
  have step : ClassStep config current _ :=
    .connection id _ below (.intro definition listed new first)
  exact ⟨step.counts, classes_update Connection.classes (connection_acted definition below)⟩

/-- An interface takes up the class of a name. -/
theorem addInterfaceClass_gains {name : String} (inside : id < network.interfaces.size)
    (run : (addInterfaceClass config id name).outcome network = (.ok (), after)) :
    Gains interfaceClasses id name network after := by
  rw [addInterfaceClass, outcome_get_bind] at run
  obtain ⟨definition, current, found, act⟩ := outcome_bind_eq_ok.mp run
  obtain ⟨defined, rfl⟩ := outcome_require_eq_ok.mp found
  refine gains_of_act interfaceClasses defined act fun listed new acted => ?_
  obtain ⟨rfl, first⟩ := applyInterfaceClass_eq_ok acted
  have step : ClassStep config current _ :=
    .interface id _ inside (.intro definition listed new first)
  exact ⟨step.counts, classes_update Interface.classes (interface_acted definition inside)⟩

/-- A visit of an interface is its start, and turns that take up the classes of its names. -/
theorem resolveInterface_turns
    (run : (resolveInterface config extra id).outcome network = (.ok (), after)) :
    ∃ turn : String → Stage PUnit, ((classNames config .interface (network.interface id).labels extra).forM turn).outcome
        (network.startInterface config id) = (.ok (), after) ∧
      ∀ name before next, (turn name).outcome before = (.ok (), next) →
        (addInterfaceClass config id name).outcome before = (.ok (), next) := by
  rw [resolveInterface, outcome_get_bind] at run
  dsimp only at run
  rw [outcome_modify_bind] at run
  unfold startInterface
  dsimp only
  have permitted (name : String) (before next : Network)
      (step : Stage.outcome (do
        let current ← get
        if (network.node (network.interface id).node).managementClass == some name &&
            !(current.interface id).isManagement then
          throw (.misplacedManagementClass name (current.describe (.interface id)))
        addInterfaceClass config id name) before = (.ok (), next)) :
      (addInterfaceClass config id name).outcome before = (.ok (), next) := by
    rw [outcome_get_bind] at step
    dsimp only at step
    split at step
    · cases step
    · exact step
  cases link : (network.interface id).connection with
  | none =>
    rw [link] at run
    exact ⟨_, run, permitted⟩
  | some found =>
    rw [link] at run
    obtain ⟨_, _, connected, classes⟩ := outcome_bind_eq_ok.mp run
    obtain rfl := applyConnectionToEnd_eq_ok connected
    exact ⟨_, classes, permitted⟩

/-- A visited interface has the classes that are named for it. -/
theorem resolveInterface_classes (inside : id < network.interfaces.size)
    (run : (resolveInterface config extra id).outcome network = (.ok (), after))
    (start : (network.interface id).classes = []) :
    interfaceClasses after = Function.update (interfaceClasses network) id
      (classNames config .interface (network.interface id).labels extra).eraseDups := by
  have kept (other : InterfaceId) : ((network.startInterface config id).interface other).classes =
      (network.interface other).classes :=
    interface_startInterface_field network id Interface.classes (fun _ _ _ _ _ _ => rfl)
      (fun _ _ _ => rfl) inside other
  have started : interfaceClasses (network.startInterface config id) = interfaceClasses network :=
    funext kept
  have counts : (network.startInterface config id).counts = network.counts :=
    (ClassStep.startInterface id).counts
  obtain ⟨turn, turns, each⟩ := resolveInterface_turns run
  rw [← started]
  refine (classes_of_names (fun name before next same step => ?_) ((kept id).trans start) turns).2
  exact addInterfaceClass_gains
    (Nat.lt_of_lt_of_eq inside (congrArg Counts.interfaces (same.trans counts)).symm)
    (each name before next step)

/-- A visited group has the classes that are named for it. -/
theorem resolveGroup_classes (inside : id < network.groups.size)
    (run : (resolveGroup config id).outcome network = (.ok (), after))
    (start : (network.group id).classes = []) :
    groupClasses after = Function.update (groupClasses network) id
      (classNames config .group (network.group id).labels []).eraseDups := by
  rw [resolveGroup, outcome_get_bind] at run
  refine (classes_of_names (fun name before next same turn => ?_) start run).2
  rw [outcome_get_bind] at turn
  obtain ⟨definition, current, found, act⟩ := outcome_bind_eq_ok.mp turn
  obtain ⟨defined, rfl⟩ := outcome_require_eq_ok.mp found
  refine gains_of_act groupClasses defined act fun listed new acted => ?_
  have below : id < current.groups.size :=
    Nat.lt_of_lt_of_eq inside (congrArg Counts.groups same).symm
  obtain rfl := applyGroupClass_eq_ok acted
  have step : ClassStep config current _ := .group id _ below (.intro definition listed new)
  exact ⟨step.counts, classes_update Group.classes (group_acted definition below)⟩

/-! ## Rounds -/

section Rounds

/-- After the round of nodes every node has the classes that are named for it. -/
theorem resolveNodes_classes (start : ∀ id, (network.node id).classes = [])
    (run : (network.nodeIds.forM (resolveNode config extra)).outcome network = (.ok (), after)) :
    ∀ id < after.nodes.size, (after.node id).classes =
      (classNames config .node (after.node id).labels extra).eraseDups :=
  classes_of_round Counts.nodes (fun current id => (current.node id).labels) nodeClasses
    (fun labels => classNames config .node labels extra)
    (fun id _ _ inside step bare =>
      ⟨(resolveNode_within counted_tolerant extra id).holds step,
        funext ((resolveNode_within sameLabels_tolerant extra id).holds step).1,
        resolveNode_classes inside step bare⟩) start run

/-- After the round of connections every connection has the classes that are named for it. -/
theorem resolveConnections_classes (start : ∀ id, (network.connection id).classes = [])
    (run : (network.connectionIds.forM (resolveConnection config extra)).outcome network =
      (.ok (), after)) :
    ∀ id < after.connections.size, (after.connection id).classes =
      (classNames config .connection (after.connection id).labels extra).eraseDups :=
  classes_of_round Counts.connections (fun current id => (current.connection id).labels)
    connectionClasses (fun labels => classNames config .connection labels extra)
    (fun id _ _ inside step bare =>
      ⟨(resolveConnection_within counted_tolerant extra id).holds step,
        funext ((resolveConnection_within sameLabels_tolerant extra id).holds step).2.2.1,
        resolveConnection_classes inside step bare⟩) start run

/-- After the round of interfaces every interface has the classes that are named for it. -/
theorem resolveInterfaces_classes (start : ∀ id, (network.interface id).classes = [])
    (run : (network.interfaceIds.forM (resolveInterface config extra)).outcome network =
      (.ok (), after)) :
    ∀ id < after.interfaces.size, (after.interface id).classes =
      (classNames config .interface (after.interface id).labels extra).eraseDups :=
  classes_of_round Counts.interfaces (fun current id => (current.interface id).labels)
    interfaceClasses (fun labels => classNames config .interface labels extra)
    (fun id _ _ inside step bare =>
      ⟨(resolveInterface_within counted_tolerant extra id).holds step,
        funext ((resolveInterface_within sameLabels_tolerant extra id).holds step).2.1,
        resolveInterface_classes inside step bare⟩) start run

/-- After the round of groups every group has the classes that are named for it. -/
theorem resolveGroups_classes (start : ∀ id, (network.group id).classes = [])
    (run : (network.groupIds.forM (resolveGroup config)).outcome network = (.ok (), after)) :
    ∀ id < after.groups.size, (after.group id).classes =
      (classNames config .group (after.group id).labels []).eraseDups :=
  classes_of_round Counts.groups (fun current id => (current.group id).labels) groupClasses
    (fun labels => classNames config .group labels [])
    (fun id _ _ inside step bare =>
      ⟨(resolveGroup_within counted_tolerant id).holds step,
        funext ((resolveGroup_within sameLabels_tolerant id).holds step).2.2.2,
        resolveGroup_classes inside step bare⟩) start run

/-- The first three rounds leave groups alone. -/
theorem groups_of_rounds {extra : ExtraClasses} {nodes connections interfaces : Network}
    (nodesRun : (network.nodeIds.forM (resolveNode config extra.node)).outcome network =
      (.ok (), nodes))
    (connectionsRun : (nodes.connectionIds.forM
      (resolveConnection config extra.connection)).outcome nodes = (.ok (), connections))
    (interfacesRun : (connections.interfaceIds.forM
      (resolveInterface config extra.interface)).outcome connections = (.ok (), interfaces)) :
    interfaces.groups = network.groups := by
  have first := forM_keeps Network.groups startNode (fun _ _ _ => resolveNode_acts)
    (fun _ _ => rfl) (fun _ _ _ => NodeActs.groups) nodesRun
  have second := forM_keeps Network.groups (startConnection config)
    (fun _ _ _ => resolveConnection_acts) (fun _ _ => rfl) (fun _ _ _ => ConnectionActs.groups)
    connectionsRun
  have third := forM_keeps Network.groups (startInterface config)
    (fun _ _ _ => resolveInterface_acts) groups_startInterface (fun _ _ _ => InterfaceActs.groups)
    interfacesRun
  exact third.trans (second.trans first)

/-- After all rounds, every object has the first occurrences of the classes that its labels,
implicit classes and extensions name for it. -/
theorem listsNamedClasses_of_resolveClasses {extra : ExtraClasses}
    (start : network.Unclassified)
    (run : (resolveClasses config extra).outcome network = (.ok (), after)) :
    after.ListsNamedClasses config extra := by
  obtain ⟨nodes, connections, interfaces, groups, nodesRun, connectionsRun, interfacesRun,
    groupsRun, rfl⟩ := resolveClasses_eq_ok run
  clear run
  obtain ⟨nodesSame, interfacesSame, connectionsSame⟩ :=
    sameObjects.trans (resolveGroups_sameObjects groupsRun)
      (applyNetworkClasses_sameObjects config.networkClasses groups)
  obtain ⟨linesSame, portsBare⟩ := resolveNodes_others Interface.classes (fun _ _ => rfl) nodesRun
  obtain ⟨nodesKept, portsSame⟩ := resolveConnections_others connectionsRun
  constructor
  case nodes =>
    have same := nodesSame.trans ((resolveInterfaces_nodes interfacesRun).trans nodesKept)
    simp only [Network.node, same]
    exact resolveNodes_classes start.nodes nodesRun
  case connections =>
    obtain ⟨size, kept⟩ := resolveInterfaces_connections
      (fun connection => (connection.labels, connection.classes)) (fun _ _ _ => rfl) interfacesRun
    simp only [Network.connection, connectionsSame]
    intro id inside
    obtain ⟨labels, classes⟩ := Prod.mk.inj (kept id)
    refine classes.trans ((resolveConnections_classes (fun id => ?_) connectionsRun id
      (Nat.lt_of_lt_of_eq inside size)).trans ?_)
    · rw [Network.connection, linesSame]
      exact start.connections id
    · rw [← labels]
      rfl
  case interfaces =>
    simp only [Network.interface, interfacesSame]
    refine resolveInterfaces_classes (fun id => ?_) interfacesRun
    rw [Network.interface, portsSame]
    exact (portsBare id).trans (start.interfaces id)
  case groups =>
    simp only [Network.group, applyNetworkClasses_groups]
    refine resolveGroups_classes (fun id => ?_) groupsRun
    rw [Network.group, groups_of_rounds nodesRun connectionsRun interfacesRun]
    exact start.groups id

end Rounds

end ClassEffects

end TopoPlan
