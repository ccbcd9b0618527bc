import TopoPlan.Proofs.Config.Definitions
import TopoPlan.Proofs.Network.ClassVisits
import TopoPlan.Proofs.Network.Coherence

/-!
# Primary classes

A primary class gives an object its naming stem and its platform attributes, so no object
may have two, and an interface shares this one place with its connection.  The main
statement, `followsPrimaries_of_resolve`, says of every object of a resolved network that
it is what its primary class makes of it, management interfaces included.
-/

namespace TopoPlan

/-- The primary classes among the classes of a node. -/
def Node.primaryClasses (config : Config) (node : Node) : List NodeClass :=
  (node.classes.filterMap config.nodeClass?).filter (·.primary)

/-- The primary classes among the classes of a connection. -/
def Connection.primaryClasses (config : Config) (connection : Connection) :
    List ConnectionClass :=
  (connection.classes.filterMap config.connectionClass?).filter (·.primary)

/-- The primary classes among the classes of an interface. -/
def Interface.primaryClasses (config : Config) (interface : Interface) : List InterfaceClass :=
  (interface.classes.filterMap config.interfaceClass?).filter (·.primary)

/-- What primary classes decide about a node. -/
def Node.traits (node : Node) :=
  (node.classes, node.primaryClass, node.stem, node.managementClass, node.tinet, node.clab)

/-- What primary classes decide about a connection. -/
def Connection.traits (connection : Connection) :=
  (connection.classes, connection.primaryClass, connection.stem)

/-- What primary classes decide about an interface. -/
def Interface.traits (interface : Interface) :=
  (interface.classes, interface.primaryClass, interface.stem, interface.tinet, interface.clab)

/-- A node has at most one primary class, and is what this class makes of it. -/
structure Node.FollowsPrimary (config : Config) (node : Node) : Prop where
  single : (node.primaryClasses config).length ≤ 1
  named : node.primaryClass = (node.primaryClasses config).head?.map (·.name)
  stem : node.stem = ((node.primaryClasses config).head?.bind (·.stem)).getD nodeStem
  management :
    node.managementClass = (node.primaryClasses config).head?.bind (·.managementClass)
  tinet : node.tinet = ((node.primaryClasses config).head?.map (·.tinet)).getD {}
  clab : node.clab = ((node.primaryClasses config).head?.map (·.clab)).getD {}

/-- A connection has at most one primary class, and is what this class makes of it. -/
structure Connection.FollowsPrimary (config : Config) (connection : Connection) : Prop where
  single : (connection.primaryClasses config).length ≤ 1
  named : connection.primaryClass = (connection.primaryClasses config).head?.map (·.name)
  stem : connection.stem = (connection.primaryClasses config).head?.bind (·.stem)

/-- An interface has at most one primary class together with its connection, and is what
these classes make of it. -/
structure Interface.FollowsPrimary (config : Config) (line : List ConnectionClass)
    (interface : Interface) : Prop where
  single : (interface.primaryClasses config).length + line.length ≤ 1
  named : interface.primaryClass = (interface.primaryClasses config).head?.map (·.name)
  stem : interface.stem =
    (((interface.primaryClasses config).head?.bind (·.stem)).or
      (line.head?.bind (·.stem))).getD interfaceStem
  tinet : interface.tinet = ((interface.primaryClasses config).head?.map (·.tinet)).getD {}
  clab : interface.clab = ((interface.primaryClasses config).head?.map (·.clab)).getD {}

namespace Network

/-- The primary classes of the connection of an interface, if it has a connection. -/
def linePrimaries (config : Config) (network : Network) (id : InterfaceId) :
    List ConnectionClass :=
  ((network.interface id).connection.map fun found =>
    (network.connection found).primaryClasses config).getD []

/-- All objects are what their primary classes make of them. -/
structure FollowsPrimaries (config : Config) (network : Network) : Prop where
  nodes : ∀ id < network.nodes.size, (network.node id).FollowsPrimary config
  connections : ∀ id, (network.connection id).FollowsPrimary config
  interfaces : ∀ id < network.interfaces.size,
    (network.interface id).FollowsPrimary config (network.linePrimaries config id)

end Network

/-! ## Actions of classes -/

/-- The primary definitions of names after one more name. -/
theorem primaries_append {α : Type} {find : String → Option α} {primary : α → Bool}
    {name : String} {definition : α} (found : find name = some definition)
    (names : List String) :
    ((names ++ [name]).filterMap find).filter primary =
      (names.filterMap find).filter primary ++ if primary definition then [definition] else [] := by
  rw [filterMap_append_found found, List.filter_append, List.filter_singleton, cond_eq_ite]

section Actions

variable {config : Config} (valid : config.validate = .ok ())

include valid

/-- A class acts on a node that has no primary class if the class is one. -/
theorem Node.FollowsPrimary.withClass {node : Node} {definition : NodeClass}
    (follows : node.FollowsPrimary config) (listed : definition ∈ config.nodeClasses)
    (first : definition.primary = true → node.primaryClass = none) :
    (Node.withClass config definition node).FollowsPrimary config := by
  have classes : (Node.withClass config definition node).primaryClasses config =
      node.primaryClasses config ++ if definition.primary then [definition] else [] :=
    primaries_append (Config.nodeClass?_of_mem valid listed) node.classes
  obtain ⟨single, named, stem, management, tinet, clab⟩ := follows
  by_cases primary : definition.primary = true
  · have none : node.primaryClasses config = [] := by
      rw [first primary] at named
      simpa using named.symm
    rw [none] at stem management
    constructor <;> rw [classes, none]
    · simp [primary]
    · simp [Node.withClass, primary]
    · simp [Node.withClass, primary, stem]
    · simp [Node.withClass, primary, management]
    · simp [Node.withClass, primary]
    · simp [Node.withClass, primary]
  · constructor <;> rw [classes, if_neg primary, List.append_nil]
    · exact single
    · exact (if_neg primary).trans named
    · exact (if_neg primary).trans stem
    · exact (if_neg primary).trans management
    · exact (if_neg primary).trans tinet
    · exact (if_neg primary).trans clab

/-- A class acts on a connection that has no primary class if the class is one. -/
theorem Connection.FollowsPrimary.withClass {connection : Connection}
    {definition : ConnectionClass} (follows : connection.FollowsPrimary config)
    (listed : definition ∈ config.connectionClasses)
    (first : definition.primary = true → connection.primaryClass = none) :
    (Connection.withClass config definition connection).FollowsPrimary config := by
  have classes : (Connection.withClass config definition connection).primaryClasses config =
      connection.primaryClasses config ++ if definition.primary then [definition] else [] :=
    primaries_append (Config.connectionClass?_of_mem valid listed) connection.classes
  obtain ⟨single, named, stem⟩ := follows
  by_cases primary : definition.primary = true
  · have none : connection.primaryClasses config = [] := by
      rw [first primary] at named
      simpa using named.symm
    constructor <;> rw [classes, none]
    · simp [primary]
    · simp [Connection.withClass, primary]
    · simp [Connection.withClass, primary]
  · constructor <;> rw [classes, if_neg primary, List.append_nil]
    · exact single
    · exact (if_neg primary).trans named
    · exact (if_neg primary).trans stem

/-- A class acts on an interface; if it is primary, neither the interface nor its connection
has a primary class. -/
theorem Interface.FollowsPrimary.withClass {interface : Interface} {line : List ConnectionClass}
    {definition : InterfaceClass} (follows : interface.FollowsPrimary config line)
    (listed : definition ∈ config.interfaceClasses)
    (first : definition.primary = true → interface.primaryClass = none ∧ line = []) :
    (Interface.withClass config definition interface).FollowsPrimary config line := by
  have classes : (Interface.withClass config definition interface).primaryClasses config =
      interface.primaryClasses config ++ if definition.primary then [definition] else [] :=
    primaries_append (Config.interfaceClass?_of_mem valid listed) interface.classes
  obtain ⟨single, named, stem, tinet, clab⟩ := follows
  by_cases primary : definition.primary = true
  · obtain ⟨free, rfl⟩ := first primary
    have none : interface.primaryClasses config = [] := by
      rw [free] at named
      simpa using named.symm
    rw [none] at stem
    constructor <;> rw [classes, none]
    · simp [primary]
    · simp [Interface.withClass, primary]
    · simp [Interface.withClass, primary, stem]
    · simp [Interface.withClass, primary]
    · simp [Interface.withClass, primary]
  · constructor <;> rw [classes, if_neg primary, List.append_nil]
    · exact single
    · exact (if_neg primary).trans named
    · exact (if_neg primary).trans stem
    · exact (if_neg primary).trans tinet
    · exact (if_neg primary).trans clab

end Actions

/-! ## Objects without classes -/

section Traits

variable {config : Config}

/-- Whether a node follows its primary class depends on its traits alone. -/
theorem Node.FollowsPrimary.congr {node other : Node} (follows : node.FollowsPrimary config)
    (same : other.traits = node.traits) : other.FollowsPrimary config := by
  simp only [Node.traits, Prod.mk.injEq] at same
  obtain ⟨classes, named, stem, management, tinet, clab⟩ := same
  have primaries : other.primaryClasses config = node.primaryClasses config := by
    rw [Node.primaryClasses, classes, Node.primaryClasses]
  constructor <;> rw [primaries]
  · exact follows.single
  · exact named.trans follows.named
  · exact stem.trans follows.stem
  · exact management.trans follows.management
  · exact tinet.trans follows.tinet
  · exact clab.trans follows.clab

/-- The primary classes of a connection depend on its traits alone. -/
theorem Connection.primaryClasses_congr (config : Config) {connection other : Connection}
    (same : other.traits = connection.traits) :
    other.primaryClasses config = connection.primaryClasses config := by
  simp only [Connection.traits, Prod.mk.injEq] at same
  rw [Connection.primaryClasses, same.1, Connection.primaryClasses]

/-- Whether a connection follows its primary class depends on its traits alone. -/
theorem Connection.FollowsPrimary.congr {connection other : Connection}
    (follows : connection.FollowsPrimary config) (same : other.traits = connection.traits) :
    other.FollowsPrimary config := by
  have primaries := Connection.primaryClasses_congr config same
  simp only [Connection.traits, Prod.mk.injEq] at same
  constructor <;> rw [primaries]
  · exact follows.single
  · exact same.2.1.trans follows.named
  · exact same.2.2.trans follows.stem

/-- Whether an interface follows its primary class depends on its traits alone. -/
theorem Interface.FollowsPrimary.congr {interface other : Interface} {line : List ConnectionClass}
    (follows : interface.FollowsPrimary config line) (same : other.traits = interface.traits) :
    other.FollowsPrimary config line := by
  simp only [Interface.traits, Prod.mk.injEq] at same
  obtain ⟨classes, named, stem, tinet, clab⟩ := same
  have primaries : other.primaryClasses config = interface.primaryClasses config := by
    rw [Interface.primaryClasses, classes, Interface.primaryClasses]
  constructor <;> rw [primaries]
  · exact follows.single
  · exact named.trans follows.named
  · exact stem.trans follows.stem
  · exact tinet.trans follows.tinet
  · exact clab.trans follows.clab

/-- A node without classes that got its stem. -/
theorem Node.followsPrimary_of_bare {node : Node}
    (bare : node.traits = ([], none, nodeStem, none, {}, {})) : node.FollowsPrimary config := by
  simp only [Node.traits, Prod.mk.injEq] at bare
  obtain ⟨classes, named, stem, management, tinet, clab⟩ := bare
  have none : node.primaryClasses config = [] := by
    rw [Node.primaryClasses, classes]
    rfl
  constructor <;> rw [none]
  · exact Nat.zero_le 1
  · exact named
  · exact stem
  · exact management
  · exact tinet
  · exact clab

/-- A connection without classes. -/
theorem Connection.followsPrimary_of_bare {connection : Connection}
    (bare : connection.traits = ([], none, none)) : connection.FollowsPrimary config := by
  simp only [Connection.traits, Prod.mk.injEq] at bare
  have none : connection.primaryClasses config = [] := by
    rw [Connection.primaryClasses, bare.1]
    rfl
  constructor <;> rw [none]
  · exact Nat.zero_le 1
  · exact bare.2.1
  · exact bare.2.2

/-- An interface without classes that got the stem of its connection. -/
theorem Interface.followsPrimary_of_bare {interface : Interface} {line : List ConnectionClass}
    (single : line.length ≤ 1)
    (bare : interface.traits =
      ([], none, (line.head?.bind (·.stem)).getD interfaceStem, {}, {})) :
    interface.FollowsPrimary config line := by
  simp only [Interface.traits, Prod.mk.injEq] at bare
  obtain ⟨classes, named, stem, tinet, clab⟩ := bare
  have none : interface.primaryClasses config = [] := by
    rw [Interface.primaryClasses, classes]
    rfl
  constructor <;> rw [none]
  · rw [List.length_nil, Nat.zero_add]
    exact single
  · exact named
  · exact stem
  · exact tinet
  · exact clab

end Traits

namespace Network

/-- Nothing of what primary classes decide has changed. -/
structure SameTraits (before after : Network) : Prop where
  nodeCount : after.nodes.size = before.nodes.size
  interfaceCount : after.interfaces.size = before.interfaces.size
  nodes : ∀ id, (after.node id).traits = (before.node id).traits
  connections : ∀ id, (after.connection id).traits = (before.connection id).traits
  interfaces : ∀ id, (after.interface id).traits = (before.interface id).traits
  links : ∀ id, (after.interface id).connection = (before.interface id).connection

/-- The frame of stages that leave alone what primary classes decide. -/
def sameTraits : Frame where
  holds := SameTraits
  refl _ := ⟨rfl, rfl, fun _ => rfl, fun _ => rfl, fun _ => rfl, fun _ => rfl⟩
  trans first second := ⟨second.nodeCount.trans first.nodeCount,
    second.interfaceCount.trans first.interfaceCount,
    fun id => (second.nodes id).trans (first.nodes id),
    fun id => (second.connections id).trans (first.connections id),
    fun id => (second.interfaces id).trans (first.interfaces id),
    fun id => (second.links id).trans (first.links id)⟩

section Changes

variable {config : Config} {network after : Network}

/-- The primary classes of the connection of an interface depend on few things. -/
theorem linePrimaries_congr {id : InterfaceId}
    (link : (after.interface id).connection = (network.interface id).connection)
    (connections : ∀ other, (after.connection other).traits = (network.connection other).traits) :
    after.linePrimaries config id = network.linePrimaries config id := by
  unfold linePrimaries
  simp only [link, fun other => Connection.primaryClasses_congr config (connections other)]

/-- Whether a network follows its primary classes depends on the traits alone. -/
theorem FollowsPrimaries.congr (follows : network.FollowsPrimaries config)
    (same : SameTraits network after) : after.FollowsPrimaries config where
  nodes id inside := (follows.nodes id (same.nodeCount ▸ inside)).congr (same.nodes id)
  connections id := (follows.connections id).congr (same.connections id)
  interfaces id inside := by
    rw [linePrimaries_congr (same.links id) same.connections]
    exact (follows.interfaces id (same.interfaceCount ▸ inside)).congr (same.interfaces id)

variable (network)

/-- A change of a node that keeps its traits keeps those of the network. -/
theorem sameTraits_updateNode {id : NodeId} {change : Node → Node}
    (keeps : ∀ node, (change node).traits = node.traits) :
    SameTraits network (network.updateNode id change) :=
  { sameTraits.refl network with
    nodeCount := network.size_nodes_updateNode id change
    nodes := network.node_updateNode_field keeps id }

/-- A change of an interface that keeps its traits and its connection keeps those of the network.
-/
theorem sameTraits_updateInterface {id : InterfaceId} {change : Interface → Interface}
    (keeps : ∀ interface, (change interface).traits = interface.traits)
    (link : ∀ interface, (change interface).connection = interface.connection) :
    SameTraits network (network.updateInterface id change) :=
  { sameTraits.refl network with
    interfaceCount := network.size_interfaces_updateInterface id change
    interfaces := network.interface_updateInterface_field keeps id
    links := network.interface_updateInterface_field link id }

/-- A change of a connection that keeps its traits keeps those of the network. -/
theorem sameTraits_updateConnection {id : ConnectionId} {change : Connection → Connection}
    (keeps : ∀ connection, (change connection).traits = connection.traits) :
    SameTraits network (network.updateConnection id change) :=
  { sameTraits.refl network with
    connections := network.connection_updateConnection_field keeps id }

/-- Members have no traits. -/
theorem sameTraits_addMember (member : Member) :
    SameTraits network (network.addMember member) := by
  refine sameTraits.addMember (fun _ => { sameTraits.refl network with }) ?_ ?_ ?_ member
  · exact fun current _ _ => current.sameTraits_updateNode fun _ => rfl
  · exact fun current _ _ => current.sameTraits_updateInterface (fun _ => rfl) fun _ => rfl
  · exact fun current _ _ => current.sameTraits_updateConnection fun _ => rfl

/-- Primary classes do not decide names. -/
theorem sameTraits_nameless : sameTraits.Nameless where
  node network _ _ := network.sameTraits_updateNode fun _ => rfl
  interface network _ _ := network.sameTraits_updateInterface (fun _ => rfl) fun _ => rfl
  connection network _ _ := network.sameTraits_updateConnection fun _ => rfl

end Changes

/-- No class has acted on any object. -/
structure Bare (network : Network) : Prop where
  nodes : ∀ id, (network.node id).traits = ([], none, "", none, {}, {})
  connections : ∀ id, (network.connection id).traits = ([], none, none)
  interfaces : ∀ id, (network.interface id).traits = ([], none, "", {}, {})

/-- An edge adds interfaces and a connection on which no class has acted. -/
theorem Bare.addEdge {network : Network} (bare : network.Bare) (edge : GraphEdge)
    (source target : NodeId) : (network.addEdge edge source target).Bare where
  nodes id := (node_addInterface_field Node.traits (fun _ _ => rfl) _ id).trans
    ((node_addInterface_field Node.traits (fun _ _ => rfl) _ id).trans (bare.nodes id))
  connections id := (field_getD_push Connection.traits (by rfl) id).trans (bare.connections id)
  interfaces id := (interface_addConnection_field _ Interface.traits (fun _ _ => rfl) _ id).trans
    ((interface_addInterface_field Interface.traits (by rfl) id).trans
      ((interface_addInterface_field Interface.traits (by rfl) id).trans (bare.interfaces id)))

/-- No class acts when a group is added. -/
theorem Bare.addGroup {network : Network} (bare : network.Bare) (group : Group) :
    (network.addGroup group).Bare where
  nodes id := (node_addGroup_field Node.traits (fun _ _ => rfl) _ id).trans (bare.nodes id)
  connections id := by
    unfold Network.addGroup
    dsimp only
    rw [foldl_updateNode]
    exact bare.connections id
  interfaces id := by
    unfold Network.addGroup
    dsimp only
    rw [foldl_updateNode]
    exact bare.interfaces id

/-- Classes have not acted on the objects of a topology. -/
theorem bare_of_ofTopology {config : Config} {topology : Topology} {built : Network}
    (made : ofTopology config topology = .ok built) : built.Bare := by
  refine ofTopology_induction made (fun parameters => ?_)
    (fun network edge source target _ _ bare => bare.addEdge edge source target)
    fun network given nodes _ bare => bare.addGroup _
  constructor
  case nodes => exact node_of_nodes Node.traits topology.nodes _ parameters rfl fun _ => rfl
  case connections => exact fun _ => rfl
  case interfaces => exact fun _ => rfl

end Network

/-! ## Visits -/

namespace ClassEffects

open Network

variable {config : Config} {network after : Network}

/-- An interface follows primary classes, like its connection. -/
def FollowsWithLine (config : Config) (line : Option Connection) (interface : Interface) : Prop :=
  (∀ connection ∈ line, connection.FollowsPrimary config) ∧
    interface.FollowsPrimary config ((line.map (Connection.primaryClasses config)).getD [])

/-- Following the primary class of the line is following that of the connection, once connections
do. -/
theorem followsWithLine_iff (follow : ∀ id, (network.connection id).FollowsPrimary config)
    (id : InterfaceId) :
    FollowsWithLine config (network.line id) (network.interface id) ↔
      (network.interface id).FollowsPrimary config (network.linePrimaries config id) := by
  have same : network.linePrimaries config id =
      ((network.line id).map (Connection.primaryClasses config)).getD [] := by
    unfold linePrimaries line
    rw [Option.map_map]
    rfl
  rw [same]
  refine and_iff_right fun connection linked => ?_
  obtain ⟨found, _, rfl⟩ := Option.map_eq_some_iff.mp linked
  exact follow found

/-- What a sound connection has to say when one of its ends is visited. -/
theorem primaries_of_line {line : Option Connection}
    (sound : ∀ connection ∈ line, connection.FollowsPrimary config) :
    ((line.map (Connection.primaryClasses config)).getD []).length ≤ 1 ∧
      line.bind Connection.stem =
        ((line.map (Connection.primaryClasses config)).getD []).head?.bind (·.stem) ∧
      ((∀ connection ∈ line, connection.primaryClass = none) →
        (line.map (Connection.primaryClasses config)).getD [] = []) := by
  cases line with
  | none => exact ⟨Nat.zero_le 1, rfl, fun _ => rfl⟩
  | some connection =>
    obtain ⟨single, named, stem⟩ := sound connection rfl
    refine ⟨single, stem, fun free => ?_⟩
    rw [free connection rfl] at named
    simpa using named.symm

/-- A visit makes a node follow its primary class. -/
theorem nodeVisits_followsPrimary (valid : config.validate = .ok ()) :
    NodeVisits config (fun node => node.traits = ([], none, "", none, {}, {}))
      (Node.FollowsPrimary config) where
  starts node bare := by
    refine Node.followsPrimary_of_bare ?_
    simp only [Node.traits, Prod.mk.injEq] at bare ⊢
    exact ⟨bare.1, bare.2.1, trivial, bare.2.2.2⟩
  acts _ _ listed first follows := follows.withClass valid listed first

/-- Visits keep that connections follow their primary classes. -/
theorem connectionVisits_followsPrimary (valid : config.validate = .ok ()) :
    ConnectionVisits config (Connection.FollowsPrimary config) where
  widens _ _ _ follows := follows.congr rfl
  acts _ _ listed first follows := follows.withClass valid listed first

/-- A visit makes an interface follow primary classes. -/
theorem interfaceVisits_followsPrimary (valid : config.validate = .ok ()) :
    InterfaceVisits config (Connection.FollowsPrimary config)
      (fun interface => interface.traits = ([], none, "", {}, {}))
      (FollowsWithLine config) where
  starts isVirtual line interface sound bare := by
    obtain ⟨single, stem, _⟩ := primaries_of_line sound
    refine ⟨sound, Interface.followsPrimary_of_bare single ?_⟩
    let fields (interface : Interface) :=
      (interface.classes, interface.primaryClass, interface.tinet, interface.clab)
    have kept : fields (interface.started config isVirtual line) = fields interface :=
      Interface.started_field _ _ _ fields (fun _ _ _ _ _ _ => rfl) fun _ _ _ => rfl
    simp only [fields, Prod.mk.injEq] at kept
    simp only [Interface.traits, Prod.mk.injEq] at bare ⊢
    obtain ⟨classes, named, tinet, clab⟩ := kept
    refine ⟨classes.trans bare.1, named.trans bare.2.1, ?_, tinet.trans bare.2.2.2.1,
      clab.trans bare.2.2.2.2⟩
    rw [Interface.stem_started, stem]
  widens connection layers isVirtual interface follows := by
    obtain ⟨sound, follows⟩ := follows
    refine ⟨fun widened same => ?_, follows⟩
    cases same
    exact (sound connection rfl).congr rfl
  acts line interface definition listed first follows := by
    obtain ⟨sound, follows⟩ := follows
    refine ⟨sound, follows.withClass valid listed fun primary => ?_⟩
    exact ⟨(first primary).1, (primaries_of_line sound).2.2 (first primary).2⟩

/-- All objects follow their primary classes after all classes have acted. -/
theorem resolveClasses_follow {extra : ExtraClasses} (valid : config.validate = .ok ())
    (bare : network.Bare)
    (run : (resolveClasses config extra).outcome network = (.ok (), after)) :
    after.FollowsPrimaries config := by
  obtain ⟨nodes, connections, interfaces⟩ := resolveClasses_visits
    (nodeVisits_followsPrimary valid) (connectionVisits_followsPrimary valid)
    (interfaceVisits_followsPrimary valid) (fun _ _ bare => bare) bare.nodes
    (fun id => Connection.followsPrimary_of_bare (bare.connections id)) bare.interfaces run
  exact ⟨nodes, connections, fun id inside =>
    (followsWithLine_iff connections id).mp (interfaces id inside)⟩

end ClassEffects

namespace Network

open Stage

/-! ## Resolution -/

/-- A management interface has no connection and starts without classes. -/
theorem FollowsPrimaries.addManagement {config : Config} {network : Network}
    (follows : network.FollowsPrimaries config) (node : NodeId) (name className : String) :
    (network.addManagement node name className).FollowsPrimaries config := by
  let added := Management.interfaceOf network node name className
  have interface (id : InterfaceId) : (network.addManagement node name className).interface id =
      if id = network.interfaces.size then added else network.interface id :=
    interface_addInterface network added id
  refine ⟨fun id inside => ?_, follows.connections, fun id inside => ?_⟩
  · rw [Management.size_nodes_addManagement] at inside
    refine (follows.nodes id inside).congr ?_
    refine ((sameTraits_updateNode (network.addInterface added) ?_).nodes id).trans ?_
    · exact fun _ => rfl
    · exact node_addInterface_field Node.traits (fun _ _ => rfl) added id
  · unfold linePrimaries
    rw [interface]
    split
    case isTrue => exact Interface.followsPrimary_of_bare (Nat.zero_le 1) rfl
    case isFalse old =>
      rw [Management.size_interfaces_addManagement] at inside
      exact follows.interfaces id (Nat.lt_of_le_of_ne (Nat.lt_succ_iff.mp inside) old)

/-- A class of a management interface keeps what primary classes decide. -/
theorem FollowsPrimaries.interfaceActs {config : Config} (valid : config.validate = .ok ())
    {network next : Network} (follows : network.FollowsPrimaries config) {id : InterfaceId}
    (inside : id < network.interfaces.size)
    (acts : ClassEffects.InterfaceActs config id network next) :
    next.FollowsPrimaries config := by
  have lines := (ClassEffects.connectionVisits_followsPrimary valid).interfaceActs acts inside
    follows.connections
  have size := congrArg Counts.interfaces
    (ClassEffects.ClassStep.interface id next inside acts).counts
  refine ⟨fun other below => ?_, lines, fun other below => ?_⟩
  · rw [acts.nodes] at below
    rw [Network.node, acts.nodes]
    exact follows.nodes other below
  · have before := follows.interfaces other (Nat.lt_of_lt_of_eq below size)
    rw [← ClassEffects.followsWithLine_iff follows.connections] at before
    exact (ClassEffects.followsWithLine_iff lines other).mp
      ((ClassEffects.interfaceVisits_followsPrimary valid).interfaceActs acts inside before)

/-- In a resolved network every object has at most one primary class, an interface together
with its connection, and is what this class makes of it. -/
theorem followsPrimaries_of_resolve {config : Config} {topology : Topology}
    {extra : ExtraClasses} {built resolved : Network} (valid : config.validate = .ok ())
    (made : ofTopology config topology = .ok built)
    (run : (resolve config extra).outcome built = (.ok (), resolved)) :
    resolved.FollowsPrimaries config := by
  obtain ⟨classified, named, managed, classes, names, management, members⟩ := resolve_eq_ok run
  have follows := ClassEffects.resolveClasses_follow valid (bare_of_ofTopology made) classes
  have renamed := follows.congr (names sameTraits sameTraits_nameless)
  have widened : managed.FollowsPrimaries config := Management.addInterfaces_induction
    (fun _ node name className _ _ follows => follows.addManagement node name className)
    (fun _ _ _ inside acts follows => follows.interfaceActs valid inside acts) management renamed
  have adds : Within (.ofInvariant (FollowsPrimaries config)) (Membership.build config) :=
    Membership.build_within fun network member _ _ follows =>
      follows.congr (network.sameTraits_addMember member)
  exact adds.holds members widened

end Network

namespace Depot

open Network

/-- Primary classes of nodes, of connections and of interfaces, and a layer for management. -/
def config : Config where
  name := "depot"
  management := some { name := "oob", range := "192.168.0.0/24" }
  nodeClasses := [{ name := "router"
                    primary := true
                    stem := some "r"
                    managementClass := some "console"
                    clab := ({} : Table Value).insert "kind" (.text "linux") },
    { name := "all" }]
  connectionClasses := [{ name := "wan", primary := true, stem := some "wan" }, { name := "lan" }]
  interfaceClasses := [{ name := "console" },
    { name := "uplink", primary := true, stem := some "up" }]

/-- A router between two nodes without primary class. -/
def topology : Topology where
  nodes := [{ name := "a" }, { name := "b", labels := ["router"] }, { name := "c" }]
  edges := [{ source := "a", target := "b", labels := ["wan"] },
    { source := "b", target := "c", labels := ["lan"], sourceLabels := ["uplink"] }]

/-- The network of the topology. -/
def built : Network := (ofTopology config topology).toOption.getD {}

/-- The network after resolution. -/
def resolved : Network := ((resolve config {}).outcome built).2

/-- The configuration is valid. -/
theorem config_valid : config.validate = .ok () := by decide +kernel

theorem built_of_topology : ofTopology config topology = .ok built :=
  Outcome.eq_ok_of_isOk {} (by decide +kernel)

theorem resolved_of_built : (resolve config {}).outcome built = (.ok (), resolved) :=
  Stage.outcome_eq_ok (by decide +kernel)

/-- The router is named for its class, the first link for the class of the connection, and
the second one for the class of one end. -/
theorem router_and_links_follow :
    config.validate = .ok () ∧ ofTopology config topology = .ok built ∧
      (resolve config {}).outcome built = (.ok (), resolved) ∧
      (resolved.node 1).stem = "r" ∧ (resolved.node 1).managementClass = some "console" ∧
      (resolved.interface 0).stem = "wan" ∧ (resolved.interface 2).stem = "up" ∧
      (resolved.interface 3).stem = "net" ∧ (resolved.interface 4).stem = "net" := by
  have follows := followsPrimaries_of_resolve config_valid built_of_topology resolved_of_built
  have router := follows.nodes 1 (by decide +kernel)
  refine ⟨config_valid, built_of_topology, resolved_of_built, ?_, ?_, ?_, ?_, ?_, ?_⟩
  · exact router.stem.trans (by decide +kernel)
  · exact router.management.trans (by decide +kernel)
  · exact (follows.interfaces 0 (by decide +kernel)).stem.trans (by decide +kernel)
  · exact (follows.interfaces 2 (by decide +kernel)).stem.trans (by decide +kernel)
  · exact (follows.interfaces 3 (by decide +kernel)).stem.trans (by decide +kernel)
  · exact (follows.interfaces 4 (by decide +kernel)).stem.trans (by decide +kernel)

end Depot

end TopoPlan
