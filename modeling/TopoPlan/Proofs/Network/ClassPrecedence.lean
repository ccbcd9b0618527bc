import TopoPlan.Proofs.Config.Definitions
import TopoPlan.Proofs.Network.ClassLists
import TopoPlan.Proofs.Network.Coherence
import TopoPlan.Proofs.Text.Tables

/-!
# Precedence of classes

The classes of an object are the first occurrences of the names that its labels, implicit
classes and extensions give.  Of parameters the first writer counts: value labels come before
classes, and an earlier class before a later one.  Of policies the last writer counts: an
interface gets them from the classes of its node, then from those of its connection, then from
its own.  The main statement, `classPrecedence_of_resolveClasses`, says all of this of all
objects after all classes have acted.
-/

namespace TopoPlan

open ClassEffects

namespace Config

variable (config : Config)

/-- The policy that counts in a layer: the last name that is one of a policy of the layer. -/
def lastPolicy (layer : String) (names : List String) : Option String :=
  (names.filter fun name => (config.policy? name).any fun found => found.1.name == layer).getLast?

/-- What a class requests of policies: those it names as such, then those among its other
requests. -/
def requested (policies params : List String) : List String :=
  policies ++ params.filter fun name => (config.policy? name).isSome

/-- What classes request for their nodes. -/
def nodeRequests (classes : List String) : List String :=
  (classes.filterMap config.nodeClass?).flatMap fun definition =>
    config.requested definition.policies definition.params

/-- What classes of nodes request for the interfaces of their nodes. -/
def portRequests (classes : List String) : List String :=
  (classes.filterMap config.nodeClass?).flatMap NodeClass.interfacePolicies

/-- What classes of connections request for both ends. -/
def connectionRequests (classes : List String) : List String :=
  (classes.filterMap config.connectionClass?).flatMap fun definition =>
    config.requested definition.policies definition.params

/-- What classes request for their interfaces. -/
def interfaceRequests (classes : List String) : List String :=
  (classes.filterMap config.interfaceClass?).flatMap fun definition =>
    config.requested definition.policies definition.params

end Config

/-- Own parameters are those that labels give, and others from the first of some classes, found
by their names, that defines them. -/
def Parameters.Follows {Class : Type} (find : String → Option Class) (values : Class → Table Value)
    (labels : Labels) (classes : List String) (parameters : Parameters) : Prop :=
  ∀ key, parameters.get? key = labels.values[key]?.or
    ((classes.filterMap find).findSome? fun definition =>
      (values definition)[key]?.map Value.parameterText)

/-- The parameters of a node follow its labels and classes. -/
def Node.FollowsClasses (config : Config) (node : Node) : Prop :=
  node.parameters.Follows config.nodeClass? NodeClass.values node.labels node.classes

/-- The parameters of a connection follow its labels and classes. -/
def Connection.FollowsClasses (config : Config) (connection : Connection) : Prop :=
  connection.parameters.Follows config.connectionClass? ConnectionClass.values connection.labels
    connection.classes

/-- The parameters of an interface follow its labels and classes. -/
def Interface.FollowsClasses (config : Config) (interface : Interface) : Prop :=
  interface.parameters.Follows config.interfaceClass? InterfaceClass.values interface.labels
    interface.classes

/-- The parameters of a group follow its labels and classes. -/
def Group.FollowsClasses (config : Config) (group : Group) : Prop :=
  group.parameters.Follows config.groupClass? GroupClass.values group.labels group.classes

/-- The policies of a node are the last ones that its classes request. -/
def Node.FollowsRequests (config : Config) (node : Node) : Prop :=
  ∀ layer, node.policies[layer]? = config.lastPolicy layer (config.nodeRequests node.classes)

/-- The policies of an interface are the last ones requested: by the classes of its node, by
those of its connection, and by its own. -/
def Interface.FollowsRequests (config : Config) (nodeClasses : List String)
    (line : Option Connection) (interface : Interface) : Prop :=
  ∀ layer, interface.policies[layer]? = config.lastPolicy layer
    (config.portRequests nodeClasses ++
      line.elim [] (fun connection => config.connectionRequests connection.classes) ++
        config.interfaceRequests interface.classes)

namespace Network

/-- Objects stay with their labels and what joins them, and the classes of all objects are those
that are named for them.  Their parameters follow their labels and classes, and their policies are
the last ones requested. -/
structure ClassPrecedence (config : Config) (extra : ExtraClasses) (before after : Network) :
    Prop where
  counts : after.counts = before.counts
  shape : SameShape before after
  labels : sameLabels.holds before after
  classes : after.ListsNamedClasses config extra
  nodes : ∀ id < after.nodes.size, (after.node id).FollowsClasses config
  connections : ∀ id, (after.connection id).FollowsClasses config
  interfaces : ∀ id < after.interfaces.size, (after.interface id).FollowsClasses config
  groups : ∀ id, (after.group id).FollowsClasses config
  nodePolicies : ∀ id < after.nodes.size, (after.node id).FollowsRequests config
  interfacePolicies : ∀ id < after.interfaces.size, (after.interface id).FollowsRequests config
    (after.node (after.interface id).node).classes (after.line id)

end Network

/-! ## Parameters of one object -/

namespace Parameters

variable {config : Config} {parameters : Parameters}

/-- Flags are no own parameters. -/
theorem own_flagRules (config : Config) (params : List String) (parameters : Parameters) :
    (flagRules config params parameters).own = parameters.own :=
  List.foldlRecOn (motive := fun current : Parameters => current.own = parameters.own) _ _ rfl
    fun _ same _ _ => same

/-- A class gives the text of the value that it defines. -/
theorem lookup_classParameters (values : Table Value) (key : String) :
    (classParameters values).lookup key = values[key]?.map Value.parameterText := by
  rw [← Table.lookup_toList, classParameters]
  induction values.toList with
  | nil => rfl
  | cons entry rest inductionHypothesis =>
    obtain ⟨name, value⟩ := entry
    by_cases same : key = name
    · simp [same]
    · have different : (key == name) = false := beq_false_of_ne same
      simpa [List.lookup_cons, different] using inductionHypothesis

/-- A class defines parameters that had no value. -/
theorem get?_addAll_flagRules (params : List String) (values : Table Value) (key : String) :
    ((flagRules config params parameters).addAll (classParameters values)).get? key =
      (parameters.get? key).or (values[key]?.map Value.parameterText) := by
  rw [get?, addAll, Table.getElem?_addAll, lookup_classParameters, own_flagRules, get?]

section Follows

variable {Class : Type} {find : String → Option Class} {values : Class → Table Value}
  {labels : Labels} {classes : List String}

/-- Before classes act there are the parameters that labels give. -/
theorem follows_given (find : String → Option Class) (values : Class → Table Value)
    (labels : Labels) : Follows find values labels [] (Network.givenParameters labels) := by
  intro key
  exact Option.or_none.symm

/-- The class that acts last gives what neither labels nor the classes before it give. -/
theorem Follows.withClass (follows : Follows find values labels classes parameters)
    {name : String} {definition : Class} (found : find name = some definition)
    (params : List String) :
    Follows find values labels (classes ++ [name])
      ((flagRules config params parameters).addAll (classParameters (values definition))) := by
  intro key
  rw [get?_addAll_flagRules, follows key, filterMap_append_found found, List.findSome?_append,
    List.findSome?_singleton, Option.or_assoc]

/-- Flags do not matter for following labels and classes. -/
theorem Follows.congr {other : Parameters} (follows : Follows find values labels classes parameters)
    (same : other.own = parameters.own) : Follows find values labels classes other := by
  intro key
  rw [get?, same]
  exact follows key

end Follows

end Parameters

/-! ## Policies of one object -/

section Policies

variable {config : Config} {layer : String}

/-- Later requests count more than earlier ones. -/
theorem Config.lastPolicy_append (first second : List String) :
    config.lastPolicy layer (first ++ second) =
      (config.lastPolicy layer second).or (config.lastPolicy layer first) := by
  rw [lastPolicy, List.filter_append, List.getLast?_append]
  rfl

/-- Only policies count. -/
theorem Config.lastPolicy_requested (policies params : List String) :
    config.lastPolicy layer (config.requested policies params) =
      config.lastPolicy layer (policies ++ params) := by
  have policy (name : String) :
      ((config.policy? name).any (fun found => found.1.name == layer) &&
        (config.policy? name).isSome) =
        (config.policy? name).any fun found => found.1.name == layer := by
    cases config.policy? name <;> simp
  rw [requested, lastPolicy, lastPolicy, List.filter_append, List.filter_append,
    List.filter_filter]
  simp only [policy]

/-- Requests that name policies are given like policies. -/
theorem setAll_requestedPolicies (params : List String) (table : Table String) :
    table.setAll (requestedPolicies config params) = givenPolicies config params table := by
  induction params generalizing table with
  | nil => rfl
  | cons param rest inductionHypothesis =>
    cases known : config.policy? param with
    | none =>
      simpa [requestedPolicies, givenPolicies, known] using inductionHypothesis table
    | some found =>
      simpa [requestedPolicies, givenPolicies, Table.setAll, known] using
        inductionHypothesis (table.insert found.1.name param)

/-- The last policy that is given in a layer counts, or else the one that was there. -/
theorem getElem?_givenPolicies (names : List String) (table : Table String) :
    (givenPolicies config names table)[layer]? =
      (config.lastPolicy layer names).or table[layer]? := by
  induction names generalizing table with
  | nil => rfl
  | cons name rest inductionHypothesis =>
    rw [← List.singleton_append, Config.lastPolicy_append, Option.or_assoc]
    refine (inductionHypothesis _).trans (congrArg (Option.or _) ?_)
    cases known : config.policy? name with
    | none => simp [Config.lastPolicy, known]
    | some found =>
      simp only [known]
      rw [Table.getElem?_insert]
      by_cases same : found.1.name = layer
      · simp [Config.lastPolicy, known, same]
      · simp [Config.lastPolicy, known, same]

/-- What a class requests counts more than what was there. -/
theorem getElem?_requested (policies params : List String) (table : Table String) :
    ((givenPolicies config policies table).setAll (requestedPolicies config params))[layer]? =
      (config.lastPolicy layer (config.requested policies params)).or table[layer]? := by
  rw [setAll_requestedPolicies, getElem?_givenPolicies, getElem?_givenPolicies, ← Option.or_assoc,
    ← Config.lastPolicy_append, Config.lastPolicy_requested]

/-- A started interface has the policies that the classes of its connection request, and its
own besides. -/
theorem Interface.policies_started (isVirtual : Bool) (line : Option Connection)
    (interface : Interface) :
    (interface.started config isVirtual line).policies[layer]? =
      (config.lastPolicy layer (line.elim [] fun connection =>
        config.connectionRequests connection.classes)).or interface.policies[layer]? := by
  cases line with
  | none => rfl
  | some connection =>
    have given (definitions : List ConnectionClass) (start : Interface) :
        (definitions.foldl (Interface.withConnectionClass config) start).policies[layer]? =
          (config.lastPolicy layer (definitions.flatMap fun definition =>
            config.requested definition.policies definition.params)).or
              start.policies[layer]? := by
      induction definitions generalizing start with
      | nil => rfl
      | cons definition rest inductionHypothesis =>
        rw [List.foldl_cons, inductionHypothesis, List.flatMap_cons, Config.lastPolicy_append,
          Option.or_assoc]
        exact congrArg (Option.or _) (getElem?_requested _ _ _)
    exact given _ _

end Policies

/-! ## Objects of a topology -/

/-- Labels have given a node its parameters, and classes have not acted. -/
def Node.Fresh (node : Node) : Prop :=
  node.classes = [] ∧ node.policies = {} ∧ node.parameters = Network.givenParameters node.labels

/-- Labels have given an interface its parameters, and classes have not acted. -/
def Interface.Fresh (interface : Interface) : Prop :=
  interface.classes = [] ∧ interface.policies = {} ∧
    interface.parameters = Network.givenParameters interface.labels

/-- Labels have given a connection its parameters, and classes have not acted. -/
def Connection.Fresh (connection : Connection) : Prop :=
  connection.classes = [] ∧
    connection.parameters = Network.givenParameters connection.labels

/-- Labels have given a group its parameters, and classes have not acted. -/
def Group.Fresh (group : Group) : Prop :=
  group.classes = [] ∧ group.parameters = Network.givenParameters group.labels

section Fresh

variable {config : Config}

/-- A fresh node follows its labels, and nothing has been requested for it. -/
theorem Node.Fresh.follows {node : Node} (fresh : node.Fresh) :
    node.FollowsClasses config ∧ node.FollowsRequests config := by
  obtain ⟨classes, policies, parameters⟩ := fresh
  refine ⟨?_, fun layer => ?_⟩
  · rw [Node.FollowsClasses, classes, parameters]
    exact Parameters.follows_given _ _ node.labels
  · rw [policies, classes]
    rfl

/-- A fresh interface follows its labels. -/
theorem Interface.Fresh.follows {interface : Interface} (fresh : interface.Fresh) :
    interface.FollowsClasses config := by
  rw [Interface.FollowsClasses, fresh.1, fresh.2.2]
  exact Parameters.follows_given _ _ interface.labels

/-- A fresh connection follows its labels. -/
theorem Connection.Fresh.follows {connection : Connection} (fresh : connection.Fresh) :
    connection.FollowsClasses config := by
  rw [Connection.FollowsClasses, fresh.1, fresh.2]
  exact Parameters.follows_given _ _ connection.labels

/-- A fresh group follows its labels. -/
theorem Group.Fresh.follows {group : Group} (fresh : group.Fresh) :
    group.FollowsClasses config := by
  rw [Group.FollowsClasses, fresh.1, fresh.2]
  exact Parameters.follows_given _ _ group.labels

end Fresh

namespace Network

/-- Labels have given all objects their parameters, and classes have not acted. -/
structure Fresh (network : Network) : Prop where
  nodes : ∀ id, (network.node id).Fresh
  interfaces : ∀ id, (network.interface id).Fresh
  connections : ∀ id, (network.connection id).Fresh
  groups : ∀ id, (network.group id).Fresh

/-- An edge adds fresh objects. -/
theorem Fresh.addEdge {network : Network} (fresh : network.Fresh) (edge : GraphEdge)
    (source target : NodeId) : (network.addEdge edge source target).Fresh where
  nodes id := by
    have same : ((network.addEdge edge source target).node id).Fresh = (network.node id).Fresh :=
      (node_addInterface_field Node.Fresh (fun _ _ => rfl) _ id).trans
        (node_addInterface_field Node.Fresh (fun _ _ => rfl) _ id)
    rw [same]
    exact fresh.nodes id
  interfaces id := by
    have bare (node : NodeId) (name : Option String) (texts : List String) :
        (interfaceOf node name texts).Fresh = (default : Interface).Fresh :=
      (eq_true ⟨rfl, rfl, rfl⟩).trans (eq_true ⟨rfl, rfl, rfl⟩).symm
    have same : ((network.addEdge edge source target).interface id).Fresh =
        (network.interface id).Fresh :=
      (interface_addConnection_field _ Interface.Fresh (fun _ _ => rfl) _ id).trans
        ((interface_addInterface_field Interface.Fresh (bare _ _ _) id).trans
          (interface_addInterface_field Interface.Fresh (bare _ _ _) id))
    rw [same]
    exact fresh.interfaces id
  connections id := by
    unfold Network.addEdge
    rw [connection_addConnection]
    split
    · exact ⟨rfl, rfl⟩
    · exact fresh.connections id
  groups id := fresh.groups id

/-- A fresh group changes no other object. -/
theorem Fresh.addGroup {network : Network} (fresh : network.Fresh) (given : GraphGroup)
    (nodes : List NodeId) : (network.addGroup (groupOf given nodes)).Fresh where
  nodes id := by
    rw [node_addGroup_field Node.Fresh fun _ _ => rfl]
    exact fresh.nodes id
  interfaces id := by
    unfold Network.addGroup
    dsimp only
    rw [foldl_updateNode]
    exact fresh.interfaces id
  connections id := by
    unfold Network.addGroup
    dsimp only
    rw [foldl_updateNode]
    exact fresh.connections id
  groups id := by
    unfold Network.addGroup
    dsimp only
    rw [foldl_updateNode, group, getD_push]
    split
    · exact ⟨rfl, rfl⟩
    · exact fresh.groups id

/-- The objects of a topology are fresh. -/
theorem fresh_of_ofTopology {config : Config} {topology : Topology} {built : Network}
    (made : ofTopology config topology = .ok built) : built.Fresh := by
  refine ofTopology_induction made (fun parameters => ⟨fun id => ?_, fun _ => ⟨rfl, rfl, rfl⟩,
    fun _ => ⟨rfl, rfl⟩, fun _ => ⟨rfl, rfl⟩⟩)
    (fun _ edge source target _ _ fresh => fresh.addEdge edge source target)
    fun _ given nodes _ fresh => fresh.addGroup given nodes
  exact of_eq_true (node_of_nodes Node.Fresh topology.nodes _ parameters
    (eq_true ⟨rfl, rfl, rfl⟩) (fun _ => eq_true ⟨rfl, rfl, rfl⟩) id)

/-- Fresh objects have no classes. -/
theorem Fresh.unclassified {network : Network} (fresh : network.Fresh) : network.Unclassified where
  nodes id := (fresh.nodes id).1
  connections id := (fresh.connections id).1
  interfaces id := (fresh.interfaces id).1
  groups id := (fresh.groups id).1

end Network

namespace ClassEffects

open Network Stage

variable {config : Config} {network next after : Network}

/-! ## Visits -/

section Visits

variable (valid : config.validate = .ok ())

include valid

/-- A class that acts keeps that a node follows its classes and their requests. -/
theorem nodeVisits_followsClasses :
    NodeVisits config (fun node => node.FollowsClasses config ∧ node.FollowsRequests config)
      fun node => node.FollowsClasses config ∧ node.FollowsRequests config where
  starts _ follows := follows
  acts node definition listed _ follows := by
    have found := config.nodeClass?_of_mem valid listed
    refine ⟨follows.1.withClass found definition.params, fun layer => ?_⟩
    refine (getElem?_requested _ _ _).trans ?_
    change _ = config.lastPolicy layer (config.nodeRequests (node.classes ++ [definition.name]))
    rw [Config.nodeRequests, flatMap_append_found found, Config.lastPolicy_append, follows.2 layer]
    rfl

/-- A class that acts keeps that a connection follows its classes. -/
theorem connectionVisits_followsClasses :
    ConnectionVisits config (Connection.FollowsClasses config) where
  widens _ _ _ follows := follows
  acts _ definition listed _ follows :=
    follows.withClass (config.connectionClass?_of_mem valid listed) definition.params

/-- A class that acts keeps that an interface follows its classes. -/
theorem interfaceVisits_followsClasses :
    InterfaceVisits config (Connection.FollowsClasses config) (Interface.FollowsClasses config)
      fun _ interface => interface.FollowsClasses config where
  starts isVirtual line interface _ follows := by
    let fields (interface : Interface) :=
      (interface.labels, interface.classes, interface.parameters.own)
    have kept : fields (interface.started config isVirtual line) = fields interface := by
      refine Interface.started_field _ _ _ fields (fun interface _ _ params _ _ => ?_) fun _ _ _ => rfl
      exact congrArg (interface.labels, interface.classes, ·)
        (Parameters.own_flagRules config params interface.parameters)
    simp only [fields, Prod.mk.injEq] at kept
    unfold Interface.FollowsClasses
    rw [kept.1, kept.2.1]
    exact Parameters.Follows.congr follows kept.2.2
  widens _ _ _ _ follows := follows
  acts _ _ definition listed _ follows :=
    follows.withClass (config.interfaceClass?_of_mem valid listed) definition.params

/-- Interfaces have the policies from their nodes before they are visited. -/
theorem interfaceVisits_followsRequests (nodeClasses : NodeId → List String) :
    InterfaceVisits config (fun _ => True)
      (fun interface => interface.classes = [] ∧ ∀ layer, interface.policies[layer]? =
        config.lastPolicy layer (config.portRequests (nodeClasses interface.node)))
      fun line interface =>
        interface.FollowsRequests config (nodeClasses interface.node) line where
  starts isVirtual line interface _ bare := by
    intro layer
    let fields (interface : Interface) := (interface.node, interface.classes)
    have kept : fields (interface.started config isVirtual line) = fields interface :=
      Interface.started_field _ _ _ fields (fun _ _ _ _ _ _ => rfl) fun _ _ _ => rfl
    simp only [fields, Prod.mk.injEq] at kept
    rw [Interface.policies_started, kept.1, kept.2, bare.1, bare.2 layer, Config.lastPolicy_append,
      Config.lastPolicy_append]
    rfl
  widens _ _ _ _ follows := follows
  acts line interface definition listed _ follows := by
    intro layer
    refine (getElem?_requested _ _ _).trans ?_
    change _ = config.lastPolicy layer
      (_ ++ config.interfaceRequests (interface.classes ++ [definition.name]))
    rw [Config.interfaceRequests,
      flatMap_append_found (config.interfaceClass?_of_mem valid listed), ← List.append_assoc,
      Config.lastPolicy_append, follows layer]
    rfl

/-- A class keeps that a group follows its classes. -/
theorem groups_followClasses (group : Group) (definition : GroupClass)
    (listed : definition ∈ config.groupClasses) (follows : group.FollowsClasses config) :
    (Group.withClass config definition group).FollowsClasses config :=
  follows.withClass (config.groupClass?_of_mem valid listed) definition.params

end Visits

/-! ## Policies from nodes -/

/-- Giving policies adds no interface. -/
theorem size_giveInterfaces (network : Network) (interfaces : List InterfaceId)
    (policies : List String) :
    (network.giveInterfaces config interfaces policies).interfaces.size =
      network.interfaces.size := by
  have same : counted.holds network (network.giveInterfaces config interfaces policies) :=
    giveInterfaces_holds (fun current id _ => counted_tolerant.interface current id
      fun _ => by rfl) network interfaces policies
  exact congrArg Counts.interfaces same

/-- Interfaces among the chosen ones have the policy, in its layer. -/
theorem getElem?_givePolicy {port : InterfaceId} (inside : port < network.interfaces.size)
    (interfaces : List InterfaceId) (policy layer : String) :
    ((network.giveInterfaces config interfaces [policy]).interface port).policies[layer]? =
      (if port ∈ interfaces then config.lastPolicy layer [policy] else none).or
        (network.interface port).policies[layer]? := by
  induction interfaces generalizing network with
  | nil => simp [giveInterfaces]
  | cons id rest inductionHypothesis =>
    let given := network.updateInterface id fun interface =>
      { interface with policies := givenPolicies config [policy] interface.policies }
    have below : port < given.interfaces.size := by
      rwa [size_interfaces_updateInterface]
    have first : (given.interface port).policies[layer]? =
        (if port = id then config.lastPolicy layer [policy] else none).or
          (network.interface port).policies[layer]? := by
      rw [interface_updateInterface]
      by_cases here : port = id
      · rw [if_pos ⟨here.symm, inside⟩, if_pos here]
        exact getElem?_givenPolicies _ _
      · rw [if_neg fun found => here found.1.symm, if_neg here, Option.none_or]
    refine (inductionHypothesis below).trans ?_
    rw [first, ← Option.or_assoc]
    refine congrArg (Option.or · _) ?_
    by_cases here : port = id
    · subst here
      rw [if_pos rfl, if_pos List.mem_cons_self]
      split
      · exact Option.or_self
      · exact Option.none_or
    · rw [if_neg here, Option.or_none]
      simp only [List.mem_cons, here, false_or]

/-- Interfaces among the chosen ones have the last of some policies, in its layer. -/
theorem getElem?_giveInterfaces {port : InterfaceId} (inside : port < network.interfaces.size)
    (interfaces : List InterfaceId) (policies : List String) (layer : String) :
    ((network.giveInterfaces config interfaces policies).interface port).policies[layer]? =
      (if port ∈ interfaces then config.lastPolicy layer policies else none).or
        (network.interface port).policies[layer]? := by
  induction policies generalizing network with
  | nil => simp [giveInterfaces, Config.lastPolicy]
  | cons policy rest inductionHypothesis =>
    let given := network.giveInterfaces config interfaces [policy]
    have below : port < given.interfaces.size := by
      rwa [size_giveInterfaces]
    refine (inductionHypothesis below).trans ?_
    have parts : policy :: rest = [policy] ++ rest := rfl
    rw [getElem?_givePolicy inside, parts, Config.lastPolicy_append]
    split
    · rw [Option.or_assoc]
    · rfl

/-- Interfaces have the policies that the classes of their nodes request for them. -/
def ServedByNodes (config : Config) (network : Network) : Prop :=
  ∀ port < network.interfaces.size, ∀ layer, (network.interface port).policies[layer]? =
    config.lastPolicy layer
      (config.portRequests (network.node (network.interface port).node).classes)

/-- What a class of a node gives the node and the interfaces. -/
theorem NodeActs.serves {id : NodeId} (acts : NodeActs config id network next)
    (inside : id < network.nodes.size) :
    ∃ definition ∈ config.nodeClasses,
      (∀ other, (next.node other).classes =
        if other = id then (network.node other).classes ++ [definition.name]
        else (network.node other).classes) ∧
      ∀ port < network.interfaces.size, ∀ layer, (next.interface port).policies[layer]? =
        (if port ∈ (network.node id).interfaces then
          config.lastPolicy layer definition.interfacePolicies else none).or
          (network.interface port).policies[layer]? := by
  obtain ⟨definition, listed, _, _⟩ := acts
  let entered := network.enter .node definition.name (.node id)
  have same : entered = { network with classIndex := entered.classIndex } := enter_eq _ _ _
  refine ⟨definition, listed, fun other => ?_, fun port below layer => ?_⟩
  · let given := entered.giveInterfaces config (network.node id).interfaces
      definition.interfacePolicies
    have nodes : given.nodes = network.nodes := by
      rw [nodes_giveInterfaces, same]
    have below : id < given.nodes.size := nodes.symm ▸ inside
    have adds (node : Node) : (Node.withClass config definition node).classes =
      node.classes ++ [definition.name] := rfl
    refine (list_getD_modify Node.classes adds below other default).trans ?_
    rw [nodes]
    rfl
  · have below : port < entered.interfaces.size := by rwa [same]
    refine (getElem?_giveInterfaces below _ _ layer).trans ?_
    rw [interface_enter]

section Served

variable (valid : config.validate = .ok ())

include valid

/-- A class of a node serves all interfaces of the node, and no others. -/
theorem NodeActs.served {id : NodeId} (acts : NodeActs config id network next)
    (inside : id < network.nodes.size) (linked : network.Linked)
    (served : ServedByNodes config network) : ServedByNodes config next := by
  have size := congrArg Counts.interfaces (ClassStep.node id next inside acts).counts
  obtain ⟨definition, listed, classes, policies⟩ := acts.serves inside
  intro port below layer
  have owner : (next.interface port).node = (network.interface port).node :=
    acts.interface_field (fun _ _ => rfl) port
  have known : port < network.interfaces.size := Nat.lt_of_lt_of_eq below size
  rw [owner, classes, policies port known, served port known]
  by_cases here : (network.interface port).node = id
  · have onNode := linked.listed port known
    rw [here] at onNode
    rw [if_pos onNode, if_pos here, Config.portRequests, Config.portRequests,
      flatMap_append_found (config.nodeClass?_of_mem valid listed), Config.lastPolicy_append]
  · have elsewhere : port ∉ (network.node id).interfaces :=
      fun onNode => here (linked.onNode id port onNode).2
    rw [if_neg elsewhere, if_neg here, Option.none_or]

/-- The round of nodes serves all interfaces. -/
theorem resolveNodes_served {extra : List String} (linked : network.Linked)
    (start : ServedByNodes config network)
    (run : (network.nodeIds.forM (resolveNode config extra)).outcome network = (.ok (), after)) :
    ServedByNodes config after := by
  have joined : (Frame.ofInvariant Linked).Tolerant :=
    shape_tolerant.mono fun _ _ same => same.toSameLinks.linked
  let steady (current : Network) : Prop :=
    current.counts = network.counts ∧ current.Linked ∧ ServedByNodes config current
  refine (outcome_forM_induction steady (fun id listed before next step known => ?_) run
    ⟨rfl, linked, start⟩).2.2
  have chain := resolveNode_acts step
  clear step
  induction chain with
  | refl =>
    obtain ⟨counts, linked, served⟩ := known
    have started : ClassStep config before (before.startNode id) := .startNode id
    refine ⟨started.counts.trans counts, started.holds joined linked, fun port below layer => ?_⟩
    have classes (other : NodeId) :
        ((before.startNode id).node other).classes = (before.node other).classes :=
      before.node_updateNode_field (fun _ => by rfl) id other
    rw [classes]
    exact served port below layer
  | @tail current next _ last inductionHypothesis =>
    obtain ⟨counts, linked, served⟩ := inductionHypothesis
    have inside : id < current.nodes.size := Nat.lt_of_lt_of_eq (List.mem_range.mp listed)
      (congrArg Counts.nodes counts).symm
    have acted : ClassStep config current next := .node id next inside last
    exact ⟨acted.counts.trans counts, acted.holds joined linked,
      last.served valid inside linked served⟩

/-- After all classes have acted, the policies of interfaces are the last ones requested. -/
theorem resolveClasses_interfacePolicies {extra : ExtraClasses} (linked : network.Linked)
    (fresh : network.Fresh)
    (run : (resolveClasses config extra).outcome network = (.ok (), after)) :
    ∀ id < after.interfaces.size, (after.interface id).FollowsRequests config
      (after.node (after.interface id).node).classes (after.line id) := by
  obtain ⟨first, second, third, nodesRun, connectionsRun, interfacesRun, nodes, ports, lines⟩ :=
    resolveClasses_rounds run
  have served : ServedByNodes config first := by
    refine resolveNodes_served valid linked (fun port _ layer => ?_) nodesRun
    rw [(fresh.interfaces port).2.1, Config.portRequests, (fresh.nodes _).1]
    rfl
  obtain ⟨_, unclassified⟩ := resolveNodes_others Interface.classes (fun _ _ => rfl) nodesRun
  obtain ⟨sameNodes, samePorts⟩ := resolveConnections_others connectionsRun
  have port (id : InterfaceId) : second.interface id = first.interface id := by
    rw [Network.interface, samePorts, Network.interface]
  have node (id : NodeId) : second.node id = first.node id := by
    rw [Network.node, sameNodes, Network.node]
  have trivially : ConnectionVisits config fun _ => True :=
    ⟨fun _ _ _ _ => trivial, fun _ _ _ _ _ => trivial⟩
  have visited := (interfaceVisits_followsRequests valid fun id => (second.node id).classes).round
    trivially (fun _ => trivial) (fun id inside => by
      rw [samePorts] at inside
      simp only [port, node]
      exact ⟨(unclassified id).trans (fresh.interfaces id).1, served id inside⟩) interfacesRun
  have keptNodes : after.nodes = second.nodes := nodes.trans (resolveInterfaces_nodes interfacesRun)
  intro id inside
  have known := visited.1 id (by rwa [← ports])
  unfold Network.line Network.interface Network.connection Network.node at known ⊢
  rw [ports, lines, keptNodes]
  exact known

end Served

end ClassEffects

namespace Network

variable {config : Config} {topology : Topology} {extra : ExtraClasses}
  {built classified : Network}

/-- After all classes have acted, every object has the classes that are named for it, each
where its name occurs first.  It has the parameters that its value labels give, and others from
the first of its classes that defines them; and in every layer it has the last policy that was
requested for it. -/
theorem classPrecedence_of_resolveClasses (valid : config.validate = .ok ())
    (made : ofTopology config topology = .ok built)
    (run : (ClassEffects.resolveClasses config extra).outcome built = (.ok (), classified)) :
    ClassPrecedence config extra built classified := by
  have fresh := fresh_of_ofTopology made
  obtain ⟨nodes, connections, interfaces⟩ := ClassEffects.resolveClasses_visits
    (ClassEffects.nodeVisits_followsClasses valid)
    (ClassEffects.connectionVisits_followsClasses valid)
    (ClassEffects.interfaceVisits_followsClasses valid) (fun _ _ follows => follows)
    (fun id => (fresh.nodes id).follows) (fun id => (fresh.connections id).follows)
    (fun id => (fresh.interfaces id).follows) run
  constructor
  case counts => exact (ClassEffects.resolveClasses_within counted_tolerant extra).holds run
  case shape => exact (ClassEffects.resolveClasses_within shape_tolerant extra).holds run
  case labels => exact (ClassEffects.resolveClasses_within sameLabels_tolerant extra).holds run
  case classes => exact ClassEffects.listsNamedClasses_of_resolveClasses fresh.unclassified run
  case nodes => exact fun id inside => (nodes id inside).1
  case connections => exact connections
  case interfaces => exact interfaces
  case groups =>
    exact ClassEffects.resolveClasses_groups (ClassEffects.groups_followClasses valid)
      (fun id => (fresh.groups id).follows) run
  case nodePolicies => exact fun id inside => (nodes id inside).2
  case interfacePolicies =>
    exact ClassEffects.resolveClasses_interfacePolicies valid (prepared_of_ofTopology made).linked
      fresh run

end Network

namespace Clinic

open Network

/-- A layer with three policies. -/
def layer : Layer where
  name := "ip"
  policies := [{ name := "wards", range := "10.1.0.0/16", subnetLength := 24 },
    { name := "labs", range := "10.2.0.0/16", subnetLength := 24 },
    { name := "office", range := "10.3.0.0/16", subnetLength := 24 }]

/-- Classes of nodes, connections and interfaces request different policies, and both classes
of groups define a floor. -/
def config : Config where
  name := "clinic"
  layers := [layer]
  nodeClasses := [
    { name := "host", interfacePolicies := ["wards"]
      values := ({} : Table Value).insert "os" (.text "linux") |>.insert "zone" (.text "a") },
    { name := "server"
      values := ({} : Table Value).insert "zone" (.text "b") |>.insert "rack" (.text "r1") },
    { name := "monitored", values := ({} : Table Value).insert "rack" (.text "r2") }]
  connectionClasses := [{ name := "trunk", policies := ["wards"], params := ["labs"] }]
  interfaceClasses := [{ name := "desk", policies := ["office"] }]
  groupClasses := [
    { name := "all", values := ({} : Table Value).insert "floor" (.text "0") },
    { name := "ward", values := ({} : Table Value).insert "floor" (.text "1") |>.insert "beds"
        (.text "8") }]

/-- A server with a parameter of its own, and a host at a desk; the ward has its own number of
beds, and both are in it. -/
def topology : Topology where
  nodes := [{ name := "a", labels := ["host", "server", "os=bsd"] },
    { name := "b", labels := ["host"] }]
  edges := [{ source := "a", target := "b", labels := ["trunk"], targetLabels := ["desk"] }]
  groups := [{ name := "w", labels := ["ward", "beds=6", "ward"], nodes := ["a", "b"] }]

/-- An extension adds a class to all nodes. -/
def extra : ExtraClasses where
  node := ["monitored"]

/-- The network of the topology. -/
def built : Network := (ofTopology config topology).toOption.getD {}

/-- The network after its classes have acted. -/
def classified : Network := ((ClassEffects.resolveClasses config extra).outcome built).2

/-- The label of the server comes before its first class, and that before the second one; its
interface has the last policy of the connection, and the other one that of its own class.  The
ward has the floor of the class of all groups, and the beds of its own label. -/
theorem classPrecedence_of_server :
    config.validate = .ok () ∧ ofTopology config topology = .ok built ∧
      (ClassEffects.resolveClasses config extra).outcome built = (.ok (), classified) ∧
      ClassPrecedence config extra built classified ∧
      (classified.node 0).classes = ["host", "server", "monitored"] ∧
      ["os", "zone", "rack"].map (classified.node 0).parameters.get? =
        [some "bsd", some "a", some "r1"] ∧
      [0, 1].map (fun id => (classified.interface id).policies["ip"]?) =
        [some "labs", some "office"] ∧
      (classified.group 0).classes = ["all", "ward"] ∧
      ["floor", "beds"].map (classified.group 0).parameters.get? = [some "0", some "6"] := by
  have valid : config.validate = .ok () := by decide +kernel
  have made : ofTopology config topology = .ok built :=
    Outcome.eq_ok_of_isOk {} (by decide +kernel)
  have run : (ClassEffects.resolveClasses config extra).outcome built = (.ok (), classified) :=
    Stage.outcome_eq_ok (by decide +kernel)
  exact ⟨valid, made, run, classPrecedence_of_resolveClasses valid made run, by decide +kernel,
    by decide +kernel, by decide +kernel, by decide +kernel, by decide +kernel⟩

end Clinic

end TopoPlan
