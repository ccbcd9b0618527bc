import TopoPlan.Proofs.Network.ClassVisits
import TopoPlan.Proofs.Network.Declarations

/-!
# Declarations of classes

Objects collect declarations of members while classes act on them, and a class of a
connection gives its declarations to both ends too.  `DeclareOwn` says that an object has
the declarations of its classes, in order and nothing else, and `declares_iff` reads this
as what classes declare.  It holds once classes have acted, and all later stages keep it.
-/

namespace TopoPlan

open ClassEffects
open TopoPlan.Membership (declarationsOf)

/-- The declarations of members of a node class, with its name. -/
def NodeClass.declared (definition : NodeClass) : List (String × MemberClass) :=
  declarations definition.name definition.members

/-- The declarations of members of an interface class, with its name. -/
def InterfaceClass.declared (definition : InterfaceClass) : List (String × MemberClass) :=
  declarations definition.name definition.members

/-- The declarations of members of a connection class, with its name. -/
def ConnectionClass.declared (definition : ConnectionClass) : List (String × MemberClass) :=
  declarations definition.name definition.members

/-- A node has the declarations of its classes. -/
def Node.DeclaresOwn (config : Config) (node : Node) : Prop :=
  node.memberClasses = (node.classes.filterMap config.nodeClass?).flatMap NodeClass.declared

/-- The declarations of the classes of a connection. -/
def Connection.declared (config : Config) (connection : Connection) :
    List (String × MemberClass) :=
  (connection.classes.filterMap config.connectionClass?).flatMap ConnectionClass.declared

/-- A connection has the declarations of its classes. -/
def Connection.DeclaresOwn (config : Config) (connection : Connection) : Prop :=
  connection.memberClasses = connection.declared config

/-- An interface has the declarations of the classes of its connection, and then those of its
own classes. -/
def Interface.DeclaresOwn (config : Config) (line : Option Connection) (interface : Interface) :
    Prop :=
  interface.memberClasses = line.elim [] (Connection.declared config) ++
    (interface.classes.filterMap config.interfaceClass?).flatMap InterfaceClass.declared

/-! ## Declarations after classes have acted -/

/-- A started interface has the declarations of the classes of its connection. -/
theorem Interface.memberClasses_started (config : Config) (isVirtual : Bool)
    (line : Option Connection) (interface : Interface) :
    (interface.started config isVirtual line).memberClasses =
      interface.memberClasses ++ line.elim [] (Connection.declared config) := by
  cases line with
  | none => exact (List.append_nil _).symm
  | some connection =>
    have given (definitions : List ConnectionClass) (start : Interface) :
        (definitions.foldl (Interface.withConnectionClass config) start).memberClasses =
          start.memberClasses ++ definitions.flatMap ConnectionClass.declared := by
      induction definitions generalizing start with
      | nil => exact (List.append_nil _).symm
      | cons definition rest inductionHypothesis =>
        rw [List.foldl_cons, inductionHypothesis, List.flatMap_cons, ← List.append_assoc]
        rfl
    exact given _ _

section Visits

variable {config : Config} (valid : config.validate = .ok ())

include valid

/-- A visit to a fresh node gives it the declarations of its classes. -/
theorem nodeVisits_declaresOwn :
    NodeVisits config (fun node => node.classes = [] ∧ node.memberClasses = [])
      (Node.DeclaresOwn config) where
  starts node bare := by
    change node.memberClasses = (node.classes.filterMap config.nodeClass?).flatMap _
    rw [bare.1, bare.2]
    rfl
  acts node definition listed _ own := by
    unfold Node.DeclaresOwn at own
    change node.memberClasses ++ _ = ((node.classes ++ _).filterMap _).flatMap _
    rw [flatMap_append_found (config.nodeClass?_of_mem valid listed), ← own]
    rfl

/-- A visit to a connection gives it the declarations of its classes. -/
theorem connectionVisits_declaresOwn :
    ConnectionVisits config (Connection.DeclaresOwn config) where
  widens _ _ _ own := own
  acts connection definition listed _ own := by
    unfold Connection.DeclaresOwn Connection.declared at own
    change connection.memberClasses ++ _ = ((connection.classes ++ _).filterMap _).flatMap _
    rw [flatMap_append_found (config.connectionClass?_of_mem valid listed), ← own]
    rfl

/-- A visit to a fresh interface gives it the declarations of its classes. -/
theorem interfaceVisits_declaresOwn :
    InterfaceVisits config (Connection.DeclaresOwn config)
      (fun interface => interface.classes = [] ∧ interface.memberClasses = [])
      (Interface.DeclaresOwn config) where
  starts isVirtual line interface _ bare := by
    have classes : (interface.started config isVirtual line).classes = interface.classes :=
      Interface.started_field _ _ _ Interface.classes (fun _ _ _ _ _ _ => rfl) fun _ _ _ => rfl
    unfold Interface.DeclaresOwn
    rw [Interface.memberClasses_started, classes, bare.1, bare.2]
    exact (List.append_nil _).symm
  widens _ _ _ _ own := own
  acts line interface definition listed _ own := by
    unfold Interface.DeclaresOwn at own
    change interface.memberClasses ++ _ =
      _ ++ ((interface.classes ++ _).filterMap _).flatMap _
    rw [flatMap_append_found (config.interfaceClass?_of_mem valid listed),
      ← List.append_assoc, ← own]
    rfl

end Visits

namespace Network

open Stage

/-- All objects have the declarations of their classes. -/
structure DeclareOwn (config : Config) (network : Network) : Prop where
  nodes : ∀ id, (network.node id).DeclaresOwn config
  connections : ∀ id, (network.connection id).DeclaresOwn config
  interfaces : ∀ id, (network.interface id).DeclaresOwn config (network.line id)

/-- Nothing of the declarations of members and of what they come from has changed. -/
structure SameDeclarations (before after : Network) : Prop where
  records : sameRecords.holds before after
  declared : ∀ scope, declarationsOf after scope = declarationsOf before scope
  links : ∀ id, (after.interface id).connection = (before.interface id).connection

/-- The frame of stages that leave alone who declares which members. -/
def sameDeclarations : Frame where
  holds := SameDeclarations
  refl network := ⟨sameRecords.refl network, fun _ => rfl, fun _ => rfl⟩
  trans first second := ⟨sameRecords.trans first.records second.records,
    fun scope => (second.declared scope).trans (first.declared scope),
    fun id => (second.links id).trans (first.links id)⟩

section Changes

variable {config : Config} {network after : Network}

/-- Whether objects declare their own members depends on classes and declarations alone. -/
theorem DeclareOwn.congr (own : network.DeclareOwn config)
    (same : SameDeclarations network after) : after.DeclareOwn config := by
  have nodeClasses (id : NodeId) : (after.node id).classes = (network.node id).classes :=
    congrFun same.records.2 (.node id)
  have portClasses (id : InterfaceId) :
      (after.interface id).classes = (network.interface id).classes :=
    congrFun same.records.2 (.interface id)
  have declared (id : ConnectionId) :
      (after.connection id).declared config = (network.connection id).declared config := by
    have classes : (after.connection id).classes = (network.connection id).classes :=
      congrFun same.records.2 (.connection id)
    rw [Connection.declared, classes, Connection.declared]
  have line (id : InterfaceId) : (after.line id).elim [] (Connection.declared config) =
      (network.line id).elim [] (Connection.declared config) := by
    unfold Network.line
    rw [same.links]
    cases (network.interface id).connection with
    | none => rfl
    | some found => exact declared found
  refine ⟨fun id => ?_, fun id => ?_, fun id => ?_⟩
  · rw [Node.DeclaresOwn, nodeClasses]
    exact (same.declared (.node id)).trans (own.nodes id)
  · rw [Connection.DeclaresOwn, declared]
    exact (same.declared (.connection id)).trans (own.connections id)
  · rw [Interface.DeclaresOwn, portClasses, line]
    exact (same.declared (.interface id)).trans (own.interfaces id)

variable (network)

/-- A change of a node that keeps classes and declarations keeps those of the network. -/
theorem sameDeclarations_updateNode {change : Node → Node}
    (classes : ∀ node, (change node).classes = node.classes)
    (declared : ∀ node, (change node).memberClasses = node.memberClasses) (id : NodeId) :
    SameDeclarations network (network.updateNode id change) where
  records := network.sameRecords_updateNode classes id
  declared scope := by
    cases scope with
    | node other => exact network.node_updateNode_field declared id other
    | _ => rfl
  links _ := rfl

/-- A change of an interface that keeps classes, declarations and its connection keeps those of the
network. -/
theorem sameDeclarations_updateInterface {change : Interface → Interface}
    (classes : ∀ interface, (change interface).classes = interface.classes)
    (declared : ∀ interface, (change interface).memberClasses = interface.memberClasses)
    (link : ∀ interface, (change interface).connection = interface.connection)
    (id : InterfaceId) : SameDeclarations network (network.updateInterface id change) where
  records := network.sameRecords_updateInterface classes id
  declared scope := by
    cases scope with
    | interface other => exact network.interface_updateInterface_field declared id other
    | _ => rfl
  links := network.interface_updateInterface_field link id

/-- A change of a connection that keeps classes and declarations keeps those of the network. -/
theorem sameDeclarations_updateConnection {change : Connection → Connection}
    (classes : ∀ connection, (change connection).classes = connection.classes)
    (declared : ∀ connection, (change connection).memberClasses = connection.memberClasses)
    (id : ConnectionId) : SameDeclarations network (network.updateConnection id change) where
  records := network.sameRecords_updateConnection classes id
  declared scope := by
    cases scope with
    | connection other => exact network.connection_updateConnection_field declared id other
    | _ => rfl
  links _ := rfl

/-- Names do not change declarations. -/
theorem sameDeclarations_nameless : sameDeclarations.Nameless where
  node network id _ := network.sameDeclarations_updateNode (fun _ => by rfl) (fun _ => by rfl) id
  interface network id _ :=
    network.sameDeclarations_updateInterface (fun _ => by rfl) (fun _ => by rfl)
      (fun _ => by rfl) id
  connection network id _ :=
    network.sameDeclarations_updateConnection (fun _ => by rfl) (fun _ => by rfl) id

/-- A management interface has no declarations when it is added. -/
theorem sameDeclarations_addManagement (node : NodeId) (name className : String) :
    SameDeclarations network (network.addManagement node name className) := by
  let added := Management.interfaceOf network node name className
  have pushed : SameDeclarations network (network.addInterface added) :=
    { records := network.sameRecords_addInterface added rfl
      declared := fun scope => by
        cases scope with
        | node id => exact node_addInterface_field Node.memberClasses (fun _ _ => rfl) added id
        | interface id =>
          have bare : added.memberClasses = [] := rfl
          exact interface_addInterface_field Interface.memberClasses bare id
        | _ => rfl
      links := interface_addInterface_field Interface.connection rfl }
  exact sameDeclarations.trans pushed
    (sameDeclarations_updateNode _ (fun _ => by rfl) (fun _ => by rfl) node)

/-- Members do not change declarations. -/
theorem sameDeclarations_addMember (member : Member) :
    SameDeclarations network (network.addMember member) := by
  refine sameDeclarations.addMember (fun members => ?_) ?_ ?_ ?_ member
  · exact { records := ⟨rfl, funext fun scope => by cases scope <;> rfl⟩
            declared := fun scope => by cases scope <;> rfl
            links := fun _ => rfl }
  · exact fun current id _ =>
      current.sameDeclarations_updateNode (fun _ => by rfl) (fun _ => by rfl) id
  · exact fun current id _ => current.sameDeclarations_updateInterface (fun _ => by rfl)
      (fun _ => by rfl) (fun _ => by rfl) id
  · exact fun current id _ =>
      current.sameDeclarations_updateConnection (fun _ => by rfl) (fun _ => by rfl) id

end Changes

/-! ## Declarations before members are added -/

section Resolution

variable {config : Config} (valid : config.validate = .ok ()) {network after : Network}

include valid

/-- Objects have the declarations of their classes after all classes have acted. -/
theorem declareOwn_of_resolveClasses {topology : Topology} {extra : ExtraClasses}
    (made : ofTopology config topology = .ok network)
    (run : (resolveClasses config extra).outcome network = (.ok (), after)) :
    after.DeclareOwn config := by
  have classes := (unclassified_of_ofTopology made).objects
  have undeclared : network.DeclaredBy default := declaredBy_of_ofTopology made
  have none (scope : Scope) : declarationsOf network scope = [] :=
    List.subset_nil.mp (undeclared scope)
  obtain ⟨nodes, connections, interfaces⟩ := resolveClasses_visits (nodeVisits_declaresOwn valid)
    (connectionVisits_declaresOwn valid) (interfaceVisits_declaresOwn valid)
    (fun _ _ bare => bare) (fun id => ⟨classes (.node id) nofun, none (.node id)⟩)
    (fun id => by
      have bare : (network.connection id).classes = [] := classes (.connection id) nofun
      rw [Connection.DeclaresOwn, Connection.declared, bare]
      exact none (.connection id))
    (fun id => ⟨classes (.interface id) nofun, none (.interface id)⟩) run
  -- Beyond the last object there are only default ones, without classes and declarations.
  refine ⟨fun id => ?_, connections, fun id => ?_⟩
  · by_cases inside : id < after.nodes.size
    · exact nodes id inside
    · rw [Network.node, getD_of_size_le (Nat.le_of_not_lt inside)]
      rfl
  · by_cases inside : id < after.interfaces.size
    · exact interfaces id inside
    · rw [line, Network.interface, getD_of_size_le (Nat.le_of_not_lt inside)]
      rfl

/-- A class that acts on a management interface gives it its declarations. -/
theorem DeclareOwn.interfaceActs (own : network.DeclareOwn config) {id : InterfaceId}
    (inside : id < network.interfaces.size) (acts : InterfaceActs config id network after) :
    after.DeclareOwn config where
  nodes other := by
    rw [Network.node, acts.nodes]
    exact own.nodes other
  connections := (connectionVisits_declaresOwn valid).interfaceActs acts inside own.connections
  interfaces other :=
    (interfaceVisits_declaresOwn valid).interfaceActs acts inside (own.interfaces other)

end Resolution

/-! ## What classes declare -/

/-- A class of an object declares members; the classes of a connection declare them for its
ends too. -/
inductive Declares (config : Config) (network : Network) : Scope → MemberClass → Prop
  | node {id : NodeId} {definition : NodeClass} {declaration : MemberClass}
      (defined : definition ∈ config.nodeClasses)
      (has : definition.name ∈ network.classesOf (.node id))
      (listed : declaration ∈ definition.members) : Declares config network (.node id) declaration
  | interface {id : InterfaceId} {definition : InterfaceClass} {declaration : MemberClass}
      (defined : definition ∈ config.interfaceClasses)
      (has : definition.name ∈ network.classesOf (.interface id))
      (listed : declaration ∈ definition.members) :
      Declares config network (.interface id) declaration
  | connection {id : ConnectionId} {definition : ConnectionClass} {declaration : MemberClass}
      (defined : definition ∈ config.connectionClasses)
      (has : definition.name ∈ network.classesOf (.connection id))
      (listed : declaration ∈ definition.members) :
      Declares config network (.connection id) declaration
  | line {id : InterfaceId} {link : ConnectionId} {declaration : MemberClass}
      (linked : (network.interface id).connection = some link)
      (declares : Declares config network (.connection link) declaration) :
      Declares config network (.interface id) declaration

section Declares

variable {config : Config} {network : Network}

/-- The declarations that classes of some names make. -/
theorem exists_mem_flatMap_declared {α : Type} {name : α → String} {definitions : List α}
    (once : (definitions.map name).Nodup) (members : α → List MemberClass) (names : List String)
    (declaration : MemberClass) :
    (∃ className, (className, declaration) ∈
        (names.filterMap fun key => definitions.find? (name · == key)).flatMap fun definition =>
          declarations (name definition) (members definition)) ↔
      ∃ definition ∈ definitions, name definition ∈ names ∧ declaration ∈ members definition := by
  simp only [List.mem_flatMap, Config.mem_filterMap_find? once, declarations, List.mem_map,
    Prod.mk.injEq]
  constructor
  · rintro ⟨_, definition, ⟨defined, has⟩, _, listed, _, rfl⟩
    exact ⟨definition, defined, has, listed⟩
  · rintro ⟨definition, defined, has, listed⟩
    exact ⟨name definition, definition, ⟨defined, has⟩, declaration, listed, rfl, rfl⟩

/-- A node declares what its classes declare. -/
theorem declares_node_iff {id : NodeId} {declaration : MemberClass} :
    Declares config network (.node id) declaration ↔ ∃ definition ∈ config.nodeClasses,
      definition.name ∈ (network.node id).classes ∧ declaration ∈ definition.members := by
  constructor
  · intro declares
    cases declares with
    | node defined has listed => exact ⟨_, defined, has, listed⟩
  · rintro ⟨_, defined, has, listed⟩
    exact .node defined has listed

/-- A connection declares what its classes declare. -/
theorem declares_connection_iff {id : ConnectionId} {declaration : MemberClass} :
    Declares config network (.connection id) declaration ↔
      ∃ definition ∈ config.connectionClasses,
        definition.name ∈ (network.connection id).classes ∧ declaration ∈ definition.members := by
  constructor
  · intro declares
    cases declares with
    | connection defined has listed => exact ⟨_, defined, has, listed⟩
  · rintro ⟨_, defined, has, listed⟩
    exact .connection defined has listed

/-- An interface declares what its classes and its connection declare. -/
theorem declares_interface_iff {id : InterfaceId} {declaration : MemberClass} :
    Declares config network (.interface id) declaration ↔
      (∃ link, (network.interface id).connection = some link ∧
        Declares config network (.connection link) declaration) ∨
      ∃ definition ∈ config.interfaceClasses,
        definition.name ∈ (network.interface id).classes ∧ declaration ∈ definition.members := by
  constructor
  · intro declares
    cases declares with
    | interface defined has listed => exact .inr ⟨_, defined, has, listed⟩
    | line linked declares => exact .inl ⟨_, linked, declares⟩
  · rintro (⟨_, linked, declares⟩ | ⟨_, defined, has, listed⟩)
    · exact .line linked declares
    · exact .interface defined has listed

/-- Objects have the declarations that their classes make. -/
theorem declares_iff (valid : config.validate = .ok ()) (own : network.DeclareOwn config)
    {scope : Scope} {declaration : MemberClass} :
    Declares config network scope declaration ↔
      ∃ className, (className, declaration) ∈ declarationsOf network scope := by
  have connections (id : ConnectionId) : Declares config network (.connection id) declaration ↔
      ∃ className, (className, declaration) ∈ (network.connection id).declared config :=
    declares_connection_iff.trans (exists_mem_flatMap_declared
      (Config.connectionClassNames_nodup valid) ConnectionClass.members _ declaration).symm
  cases scope with
  | node id =>
    rw [declarationsOf, own.nodes id]
    exact declares_node_iff.trans (exists_mem_flatMap_declared
      (Config.nodeClassNames_nodup valid) NodeClass.members _ declaration).symm
  | connection id =>
    rw [declarationsOf, own.connections id]
    exact connections id
  | interface id =>
    have line : (∃ className, (className, declaration) ∈
        (network.line id).elim [] (Connection.declared config)) ↔
        ∃ link, (network.interface id).connection = some link ∧
          Declares config network (.connection link) declaration := by
      unfold Network.line
      cases (network.interface id).connection with
      | none => simp
      | some found => simpa using (connections found).symm
    rw [declarationsOf, own.interfaces id, declares_interface_iff, ← line]
    simp only [List.mem_append, exists_or]
    exact or_congr_right (exists_mem_flatMap_declared
      (Config.interfaceClassNames_nodup valid) InterfaceClass.members _ declaration).symm
  | _ => exact ⟨nofun, nofun⟩

end Declares

end Network

end TopoPlan
