import TopoPlan.Proofs.Failures
import TopoPlan.Proofs.Network.Declarations
import TopoPlan.Proofs.Network.Names

/-!
# Failures of resolution

Three errors of the construction and the resolution of a network are ruled out: nodes
are found since the topology was checked, interfaces have names since they were named,
and declarations of members have a target since the configuration was checked.  The main
statement is `reports_resolve`.
-/

namespace TopoPlan.ClassEffects

open Stage

variable {config : Config}

/-- A policy without a layer is reported. -/
@[grind ←]
theorem reports_policyLayer {kind : ClassKind} {className policy : String} :
    Outcome.Reports (policyLayer config kind className policy) := by
  grind [policyLayer]

/-- Policies that cannot be given are reported. -/
@[grind ←]
theorem reports_givePolicies {kind : ClassKind} {className : String}
    {update : (Table String → Table String) → Network → Network} {policies : List String} :
    Reports (givePolicies config kind className update policies) := by
  grind [givePolicies]

/-- An unknown layer is reported. -/
@[grind ←]
theorem reports_checkLayer {context layer : String} :
    Reports (checkLayer config context layer) := by
  grind [checkLayer]

/-- Fields that only primary classes have are reported. -/
@[grind ←]
theorem reports_checkSecondary {kind : ClassKind} {className : String}
    {stem managementClass : Option String} {tinet clab : Table Value} :
    Reports (checkSecondary kind className stem managementClass tinet clab) := by
  grind [checkSecondary]

/-- A second primary class is reported. -/
@[grind ←]
theorem reports_checkFirstPrimary {kind : ClassKind} {object : String} {first : Option String}
    {className : String} : Reports (checkFirstPrimary kind object first className) := by
  cases first <;> grind [checkFirstPrimary]

/-- A node that cannot follow its primary class is reported. -/
theorem reports_makePrimaryNode {id : NodeId} {object : String} {definition : NodeClass} :
    Reports (makePrimaryNode config id object definition) := by
  unfold makePrimaryNode
  refine reports_bind reports_get fun _ => ?_
  refine reports_bind reports_checkFirstPrimary fun _ => reports_bind (reports_modify _) fun _ => ?_
  split
  · exact reports_modify _
  · exact reports_ite (fun _ => reports_bind (reports_throw trivial) fun _ =>
        reports_bind (reports_modify _) fun _ => reports_modify _)
      fun _ => reports_bind (reports_modify _) fun _ => reports_modify _

/-- A node that cannot follow a class is reported. -/
theorem reports_applyNodeClass {id : NodeId} {definition : NodeClass} :
    Reports (applyNodeClass config id definition) := by
  unfold applyNodeClass
  refine reports_bind reports_get fun _ => reports_bind (reports_modify _) fun _ => ?_
  refine reports_bind reports_get fun _ => ?_
  refine reports_bind (reports_forM fun policy _ => ?_) fun _ => ?_
  · refine reports_bind (reports_forM fun _ _ => reports_givePolicies) fun _ => ?_
    exact reports_ite (fun _ => reports_givePolicies) fun _ => reports_pure _
  refine reports_bind (reports_modify _) fun _ => reports_bind reports_givePolicies fun _ => ?_
  refine reports_bind (reports_modify _) fun _ => ?_
  exact reports_ite
    (fun _ => reports_bind reports_makePrimaryNode fun _ => reports_modify _)
    fun _ => reports_bind reports_checkSecondary fun _ => reports_modify _

/-- A node that cannot be resolved is reported. -/
theorem reports_resolveNode {extra : List String} {id : NodeId} :
    Reports (resolveNode config extra id) := by
  unfold resolveNode
  refine reports_bind reports_get fun _ => reports_bind (reports_modify _) fun _ => ?_
  refine reports_forM fun name _ => reports_bind reports_get fun _ => ?_
  refine reports_bind (reports_require trivial) fun _ => ?_
  exact reports_ite (fun _ => reports_applyNodeClass) fun _ => reports_pure _

/-- A connection that cannot follow a class is reported. -/
theorem reports_applyConnectionClass {id : ConnectionId} {object : String}
    {definition : ConnectionClass} :
    Reports (applyConnectionClass config id object definition) := by
  unfold applyConnectionClass
  refine reports_bind (reports_modify _) fun _ => ?_
  refine reports_bind (reports_forM fun _ _ => reports_checkLayer) fun _ => ?_
  refine reports_bind reports_givePolicies fun _ => reports_bind (reports_modify _) fun _ => ?_
  refine reports_ite (fun _ => reports_bind reports_get fun _ => ?_)
    fun _ => reports_bind reports_checkSecondary fun _ => reports_modify _
  refine reports_bind reports_checkFirstPrimary fun _ => ?_
  exact reports_bind (reports_modify _) fun _ => reports_modify _

/-- A connection that cannot be resolved is reported. -/
theorem reports_resolveConnection {extra : List String} {id : ConnectionId} :
    Reports (resolveConnection config extra id) := by
  unfold resolveConnection
  refine reports_bind reports_get fun _ => reports_bind (reports_modify _) fun _ => ?_
  refine reports_forM fun name _ => reports_bind (reports_require trivial) fun _ => ?_
  refine reports_bind reports_get fun _ => ?_
  exact reports_ite (fun _ => reports_applyConnectionClass) fun _ => reports_pure _

/-- Neighbors in an unknown layer are reported. -/
theorem reports_giveNeighborLayers {id : InterfaceId} {context : String}
    {neighbors : List NeighborClass} :
    Reports (giveNeighborLayers config id context neighbors) :=
  reports_forM fun _ _ => reports_bind reports_checkLayer fun _ => reports_modify _

/-- An end that cannot follow the classes of its connection is reported. -/
theorem reports_applyConnectionToEnd {id : InterfaceId} {connection : Connection} :
    Reports (applyConnectionToEnd config id connection) := by
  refine reports_bind (reports_forM fun name _ => ?_) fun _ => reports_modify _
  split
  · refine reports_bind reports_givePolicies fun _ => reports_bind (reports_modify _) fun _ => ?_
    exact reports_bind reports_giveNeighborLayers fun _ => reports_modify _
  · exact reports_pure _

/-- Primary classes on an interface and its connection are reported. -/
theorem reports_checkConnectionPrimary {id : InterfaceId} {object : String}
    {definition : InterfaceClass} :
    Reports (checkConnectionPrimary id object definition) :=
  reports_bind reports_get fun _ =>
    reports_ite (fun _ => reports_checkFirstPrimary) fun _ => reports_pure _

theorem reports_widenConnection {id : InterfaceId} {definition : InterfaceClass} :
    Reports (widenConnection id definition) := by
  refine reports_bind reports_get fun network => ?_
  split
  · exact reports_modify _
  · exact reports_pure _

/-- An interface that cannot follow a class is reported. -/
theorem reports_applyInterfaceClass {id : InterfaceId} {object : String}
    {definition : InterfaceClass} :
    Reports (applyInterfaceClass config id object definition) := by
  unfold applyInterfaceClass
  refine reports_bind (reports_modify _) fun _ => ?_
  refine reports_bind (reports_forM fun _ _ => reports_checkLayer) fun _ => ?_
  refine reports_bind reports_checkConnectionPrimary fun _ => ?_
  refine reports_bind reports_widenConnection fun _ => reports_bind (reports_modify _) fun _ => ?_
  refine reports_bind reports_givePolicies fun _ => reports_bind (reports_modify _) fun _ => ?_
  refine reports_bind reports_giveNeighborLayers fun _ => ?_
  refine reports_bind (reports_modify _) fun _ => ?_
  refine reports_ite (fun _ => reports_bind (reports_bind reports_get fun _ => ?_)
      fun _ => reports_modify _)
    fun _ => reports_bind reports_checkSecondary fun _ => reports_modify _
  exact reports_bind reports_checkFirstPrimary fun _ => reports_modify _

/-- An unknown class of an interface is reported. -/
theorem reports_addInterfaceClass {id : InterfaceId} {name : String} :
    Reports (addInterfaceClass config id name) := by
  refine reports_bind reports_get fun _ => reports_bind (reports_require trivial) fun _ => ?_
  exact reports_ite (fun _ => reports_applyInterfaceClass) fun _ => reports_pure _

/-- An interface that cannot be resolved is reported. -/
theorem reports_resolveInterface {extra : List String} {id : InterfaceId} :
    Reports (resolveInterface config extra id) := by
  refine reports_bind reports_get fun start => reports_bind (reports_modify _) fun _ => ?_
  have classes : Reports ((classNames config .interface (start.interface id).labels extra).forM
      fun name => do
        let network <- get
        if (start.node (start.interface id).node).managementClass == some name &&
            !(network.interface id).isManagement then
          throw (.misplacedManagementClass name (network.describe (.interface id)))
        addInterfaceClass config id name) := by
    refine reports_forM fun _ _ => reports_bind reports_get fun _ => ?_
    exact reports_ite
      (fun _ => reports_bind (reports_throw trivial) fun _ => reports_addInterfaceClass)
      fun _ => reports_addInterfaceClass
  dsimp only
  split
  · exact reports_bind reports_applyConnectionToEnd fun _ => classes
  · exact classes

/-- A group that cannot be resolved is reported. -/
theorem reports_resolveGroup {id : GroupId} : Reports (resolveGroup config id) := by
  refine reports_bind reports_get fun _ => reports_forM fun _ _ => ?_
  refine reports_bind reports_get fun _ => reports_bind (reports_require trivial) fun _ => ?_
  exact reports_ite (fun _ => reports_bind (reports_modify _) fun _ => reports_modify _)
    fun _ => reports_pure _

/-- The effects of classes fail with reported errors only. -/
theorem reports_resolveClasses {extra : ExtraClasses} :
    Reports (resolveClasses config extra) := by
  refine reports_bind reports_get fun _ => ?_
  refine reports_bind (reports_forM fun _ _ => reports_resolveNode) fun _ => ?_
  refine reports_bind reports_get fun _ => ?_
  refine reports_bind (reports_forM fun _ _ => reports_resolveConnection) fun _ => ?_
  refine reports_bind reports_get fun _ => ?_
  refine reports_bind (reports_forM fun _ _ => reports_resolveInterface) fun _ => ?_
  refine reports_bind reports_get fun _ => ?_
  exact reports_bind (reports_forM fun _ _ => reports_resolveGroup) fun _ => reports_modify _

end TopoPlan.ClassEffects

namespace TopoPlan.Naming

open Network Stage

variable {config : Config} {network : Network}

/-- Node names that repeat are reported. -/
theorem reports_nameNodes : Reports (nameNodes config) := by
  refine reports_bind reports_get fun _ => reports_bind (reports_set _) fun _ => ?_
  split
  · exact reports_throw trivial
  · exact reports_pure _

/-- The interfaces of all nodes get names. -/
theorem reports_nameInterfaces (listed : network.PortsListed) :
    Outcome.Reports (outcome nameInterfaces network).1 := by
  rcases nameInterfaces_cases listed with ⟨_, success, _⟩ | ⟨⟨_, _, failure⟩, _⟩
  · rw [success]
    exact Outcome.reports_ok _
  · rw [failure]
    exact Outcome.reports_error trivial

end TopoPlan.Naming

namespace TopoPlan.Management

open Stage

variable {config : Config}

/-- A management interface that cannot be added is reported. -/
theorem reports_addInterface {management : ManagementLayer} {node : NodeId} {className : String} :
    Reports (addInterface config management node className) := by
  refine reports_bind reports_get fun network => ?_
  have added : Reports (do
      modify fun current =>
        (current.addInterface (interfaceOf network node management.interface className)).updateNode
          node fun found => { found with managementInterface := some network.interfaces.size }
      if config.hasClass .interface Labels.allClass then
        ClassEffects.addInterfaceClass config network.interfaces.size Labels.allClass
      ClassEffects.addInterfaceClass config network.interfaces.size className) := by
    refine reports_bind (reports_modify _) fun _ => ?_
    exact reports_ite
      (fun _ => reports_bind ClassEffects.reports_addInterfaceClass fun _ =>
        ClassEffects.reports_addInterfaceClass)
      fun _ => ClassEffects.reports_addInterfaceClass
  exact reports_ite (fun _ => reports_bind (reports_throw trivial) fun _ => added) fun _ => added

/-- Management interfaces that cannot be added are reported. -/
theorem reports_addInterfaces : Reports (addInterfaces config) := by
  unfold addInterfaces
  split
  · exact reports_pure _
  · exact reports_bind reports_get fun _ => reports_forM fun _ _ => reports_addInterface

end TopoPlan.Management

namespace TopoPlan.Membership

open Network Stage

variable {config : Config} {network : Network}

/-- Members of an unknown class are reported. -/
theorem reports_addMembers {referrer : Scope} {includeSelf : Bool} {kind : ClassKind}
    {className : String} : Reports (addMembers config referrer includeSelf kind className) := by
  refine reports_bind reports_get fun network => ?_
  exact reports_ite (fun _ => reports_bind (reports_throw trivial) fun _ => reports_set _)
    fun _ => reports_set _

/-- A declaration that names classes of one kind may name classes that there are not. -/
theorem reports_addDeclared {referrer : Scope} {declaration : String × MemberClass}
    (checked : Config.checkMember declaration = .ok ()) :
    Reports (addDeclared config referrer declaration) := by
  unfold addDeclared
  unfold Config.checkMember at checked
  split
  case h_1 fault failed =>
    rw [failed] at checked
    cases checked
  case h_2 => exact reports_forM fun _ _ => reports_addMembers

/-- Declarations of a configuration whose declarations were checked make members. -/
theorem reports_build (declared : network.DeclaredBy config)
    (checked : ∀ declaration ∈ config.memberDeclarations,
      Config.checkMember declaration = .ok ()) :
    Outcome.Reports (outcome (build config) network).1 := by
  unfold build
  rw [outcome_get_bind]
  refine reports_outcome_forM (DeclaredBy config) (fun referrer _ before declared => ?_)
    (fun referrer _ => ?_) declared
  · rw [outcome_get_bind]
    refine reports_forM (fun declaration listed => ?_) before
    exact reports_addDeclared (checked declaration (declared referrer listed))
  · refine within_bind within_get fun _ => within_forM fun declaration _ => ?_
    exact addDeclared_within (fun _ member _ _ declared => declared.addMember member) declaration

end TopoPlan.Membership

namespace TopoPlan.Network

open Stage

variable {config : Config} {topology : Topology} {extra : ExtraClasses} {built : Network}

/-- A key that the nodes have leads to a node. -/
theorem exists_nodeAt {context key : String} (listed : key ∈ topology.nodes.map GraphNode.key) :
    ∃ id, nodeAt topology context key = .ok id := by
  obtain ⟨node, inside, rfl⟩ := List.mem_map.mp listed
  have found : (topology.position? node.key).isSome := by
    rw [Topology.position?, List.findIdx?_isSome]
    exact List.any_eq_true.mpr ⟨node, inside, beq_self_eq_true _⟩
  obtain ⟨id, position⟩ := Option.isSome_iff_exists.mp found
  exact ⟨id, by rw [nodeAt, position]⟩

/-- In a topology without fault both ends of every edge are nodes. -/
theorem mem_of_edgeFault? {keys : List String} {edges : List GraphEdge}
    (sound : Topology.edgeFault? keys edges = none) {edge : GraphEdge} (listed : edge ∈ edges) :
    edge.source ∈ keys ∧ edge.target ∈ keys := by
  obtain ⟨position, inside, rfl⟩ := List.mem_iff_getElem.mp listed
  have each := List.findSome?_eq_none_iff.mp sound (edges[position], position)
    (List.mk_mem_zipIdx_iff_getElem?.mpr (List.getElem?_eq_getElem inside))
  simpa using each

/-- In a topology without fault the entries of every group are nodes. -/
theorem mem_of_groupFault? {keys : List String} {groups : List GraphGroup}
    (sound : Topology.groupFault? keys groups = none) {group : GraphGroup}
    (listed : group ∈ groups) {key : String} (entry : key ∈ group.nodes) : key ∈ keys := by
  have each := List.findSome?_eq_none_iff.mp sound group listed
  simp only [Option.map_eq_none_iff, List.find?_eq_none] at each
  simpa using each key entry

/-- A topology without fault has neither faults of edges nor of groups. -/
theorem fault?_eq_none (sound : topology.fault? = none) :
    Topology.edgeFault? (topology.nodes.map GraphNode.key) topology.edges = none ∧
      Topology.groupFault? (topology.nodes.map GraphNode.key) topology.groups = none := by
  simp only [Topology.fault?, Option.orElse_eq_orElse, Option.orElse_eq_or,
    Option.or_eq_none_iff] at sound
  exact sound.2

/-- A topology is checked before its nodes are looked up. -/
theorem reports_ofTopology : Outcome.Reports (ofTopology config topology) := by
  unfold ofTopology
  split
  case h_1 => exact Outcome.reports_throw trivial
  case h_2 sound =>
    obtain ⟨edges, groups⟩ := fault?_eq_none sound
    have known {context key : String} (listed : key ∈ topology.nodes.map GraphNode.key) :
        Outcome.Reports (nodeAt topology context key) := by
      obtain ⟨id, found⟩ := exists_nodeAt listed
      rw [found]
      exact Outcome.reports_ok _
    refine Outcome.reports_bind (Outcome.reports_foldlM fun edge listed network => ?_) fun _ _ => ?_
    · obtain ⟨source, target⟩ := mem_of_edgeFault? edges listed
      exact Outcome.reports_bind (known source) fun _ _ =>
        Outcome.reports_bind (known target) fun _ _ => Outcome.reports_pure _
    · refine Outcome.reports_foldlM fun group listed network => ?_
      refine Outcome.reports_bind (Outcome.reports_mapM fun key entry => ?_) fun _ _ =>
        Outcome.reports_pure _
      exact known (mem_of_groupFault? groups listed entry)

/-- The resolution of a network that was made of a topology. -/
theorem reports_resolve (made : ofTopology config topology = .ok built)
    (checked : ∀ declaration ∈ config.memberDeclarations,
      Config.checkMember declaration = .ok ()) :
    Outcome.Reports (outcome (resolve config extra) built).1 := by
  have declared : built.DeclaredBy config := declaredBy_of_ofTopology made
  have listed : built.PortsListed := (assembled_of_ofTopology made).coherent.interfaces
  unfold resolve
  refine reports_outcome_bind (ClassEffects.reports_resolveClasses built) fun _ _ acted => ?_
  have listed := (ClassEffects.resolveClasses_within portsListed_tolerant extra).holds acted listed
  have declared := declared.resolveClasses acted
  refine reports_outcome_bind (Naming.reports_nameNodes _) fun _ _ named => ?_
  have listed := (Naming.nameNodes_within portsListed_tolerant.nameless config).holds named listed
  have declared := (Naming.nameNodes_within declaredBy_nameless config).holds named declared
  refine reports_outcome_bind (Naming.reports_nameInterfaces listed) fun _ _ named => ?_
  have declared := (Naming.nameInterfaces_within declaredBy_nameless).holds named declared
  refine reports_outcome_bind (reports_modify _ _) fun _ _ named => ?_
  have declared := (Naming.nameConnections_within declaredBy_nameless).holds named declared
  refine reports_outcome_bind (Management.reports_addInterfaces _) fun _ _ managed => ?_
  exact Membership.reports_build (declared.addInterfaces managed) checked

end TopoPlan.Network
