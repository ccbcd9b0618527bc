import TopoPlan.Proofs.Network.Names

/-!
# Names in a resolved network

Nodes and interfaces are named after the classes acted, and what follows leaves their names
alone.  A management interface is only added where its name is new, so no two nodes of a
resolved network have the same name, and no two interfaces of a node have.  The main
statement is `namesObjects_of_listed`.
-/

namespace TopoPlan.Network

/-- No two nodes have the same name, and no two interfaces of a node. -/
structure NamesApart (network : Network) : Prop where
  nodes : (network.nodeIds.map fun id => (network.node id).name).Nodup
  interfaces : ∀ node,
    ((network.node node).interfaces.map fun id => (network.interface id).name).Nodup

/-- Nodes and interfaces have the same names and are listed at the same places. -/
structure SameNames (before after : Network) : Prop where
  nodeCount : after.nodes.size = before.nodes.size
  interfaceCount : after.interfaces.size = before.interfaces.size
  node : ∀ id, (after.node id).name = (before.node id).name
  ports : ∀ id, (after.node id).interfaces = (before.node id).interfaces
  interface : ∀ id, (after.interface id).name = (before.interface id).name

/-- The frame of stages that leave names alone. -/
def sameNames : Frame where
  holds := SameNames
  refl _ := ⟨rfl, rfl, fun _ => rfl, fun _ => rfl, fun _ => rfl⟩
  trans first second := ⟨second.nodeCount.trans first.nodeCount,
    second.interfaceCount.trans first.interfaceCount,
    fun id => (second.node id).trans (first.node id),
    fun id => (second.ports id).trans (first.ports id),
    fun id => (second.interface id).trans (first.interface id)⟩

section Changes

variable (network : Network)

/-- A change of a node that keeps its name and its interfaces keeps all names. -/
theorem sameNames_updateNode {id : NodeId} {change : Node → Node}
    (name : ∀ node, (change node).name = node.name)
    (ports : ∀ node, (change node).interfaces = node.interfaces) :
    SameNames network (network.updateNode id change) :=
  { sameNames.refl network with
    nodeCount := network.size_nodes_updateNode id change
    node := network.node_updateNode_field name id
    ports := network.node_updateNode_field ports id }

/-- A change of an interface that keeps its name keeps all names. -/
theorem sameNames_updateInterface {id : InterfaceId} {change : Interface → Interface}
    (name : ∀ interface, (change interface).name = interface.name) :
    SameNames network (network.updateInterface id change) :=
  { sameNames.refl network with
    interfaceCount := network.size_interfaces_updateInterface id change
    interface := network.interface_updateInterface_field name id }

/-- Connections have no names. -/
theorem sameNames_updateConnection (id : ConnectionId) (change : Connection → Connection) :
    SameNames network (network.updateConnection id change) :=
  { sameNames.refl network with }

/-- Members have no names. -/
theorem sameNames_addMember (member : Member) : SameNames network (network.addMember member) := by
  refine sameNames.addMember (fun _ => { sameNames.refl network with }) ?_ ?_ ?_ member
  · exact fun current _ _ => current.sameNames_updateNode (fun _ => rfl) fun _ => rfl
  · exact fun current _ _ => current.sameNames_updateInterface fun _ => rfl
  · exact fun current _ _ => current.sameNames_updateConnection _ _

end Changes

variable {config : Config} {network before after : Network} {node : NodeId}

/-- A class that acts on an interface gives no names. -/
theorem sameNames_interfaceActs {id : InterfaceId}
    (acts : ClassEffects.InterfaceActs config id before after) : SameNames before after := by
  obtain ⟨definition, _, _, _⟩ := acts
  refine sameNames.trans ?_ (sameNames_updateInterface _ fun _ => rfl)
  have entered : SameNames before (before.enter .interface definition.name (.interface id)) := by
    rw [enter_eq]
    exact { sameNames.refl before with }
  refine sameNames.trans entered ?_
  unfold widen
  split
  · exact sameNames_updateConnection _ _ _
  · exact sameNames.refl _

/-- Whether names are apart depends on the names alone. -/
theorem NamesApart.congr (apart : before.NamesApart) (same : SameNames before after) :
    after.NamesApart where
  nodes := by
    rw [nodeIds, same.nodeCount]
    simp only [same.node]
    exact apart.nodes
  interfaces node := by
    simp only [same.ports, same.interface]
    exact apart.interfaces node

/-- All interfaces of nodes are there. -/
def PortsInside (network : Network) : Prop :=
  ∀ node, ∀ id ∈ (network.node node).interfaces, id < network.interfaces.size

/-- Whether listed interfaces exist depends on the lists alone. -/
theorem PortsInside.congr (inside : before.PortsInside) (same : SameNames before after) :
    after.PortsInside := by
  intro node id listed
  rw [same.interfaceCount]
  exact inside node id (same.ports node ▸ listed)

/-- A node that is told about its management interface keeps its name. -/
theorem sameNames_addManagement (network : Network) (node : NodeId) (name className : String) :
    SameNames (network.addInterface (Management.interfaceOf network node name className))
      (network.addManagement node name className) :=
  sameNames_updateNode _ (fun _ => rfl) fun _ => rfl

/-- The node of a management interface has it as its last interface. -/
theorem ports_addManagement (name className : String) (other : NodeId) :
    ((network.addManagement node name className).node other).interfaces =
      if node = other ∧ other < network.nodes.size then
        (network.node other).interfaces ++ [network.interfaces.size]
      else (network.node other).interfaces := by
  rw [(network.sameNames_addManagement node name className).ports]
  exact ports_addInterface network _ other

/-- The management interface is the last of the arena. -/
theorem interface_addManagement (name className : String) (id : InterfaceId) :
    (network.addManagement node name className).interface id =
      if id = network.interfaces.size then Management.interfaceOf network node name className
      else network.interface id :=
  interface_addInterface network _ id

/-- A management interface leaves the names of the nodes as they are. -/
theorem name_addManagement (name className : String) (other : NodeId) :
    ((network.addManagement node name className).node other).name = (network.node other).name := by
  rw [(network.sameNames_addManagement node name className).node]
  unfold addInterface
  rw [node_updateNode]
  split <;> rfl

/-- The interfaces that nodes list still exist after a management interface is added. -/
theorem PortsInside.addManagement (inside : network.PortsInside) (name className : String) :
    (network.addManagement node name className).PortsInside := by
  intro other id listed
  rw [Management.size_interfaces_addManagement]
  rw [ports_addManagement] at listed
  split at listed
  case isTrue =>
    rcases List.mem_append.mp listed with old | last
    · exact Nat.lt_succ_of_lt (inside other id old)
    · rw [List.mem_singleton.mp last]
      exact Nat.lt_succ_self _
  case isFalse => exact Nat.lt_succ_of_lt (inside other id listed)

/-- Names stay apart when a management interface is added whose name is new. -/
theorem NamesApart.addManagement (apart : network.NamesApart) (inside : network.PortsInside)
    {name : String} (new : network.findInterface? node name = none) (className : String) :
    (network.addManagement node name className).NamesApart where
  nodes := by
    rw [nodeIds, Management.size_nodes_addManagement]
    simp only [name_addManagement]
    exact apart.nodes
  interfaces other := by
    have names : ((network.node other).interfaces.map fun id =>
        ((network.addManagement node name className).interface id).name) =
          (network.node other).interfaces.map fun id => (network.interface id).name := by
      apply List.map_congr_left
      intro id listed
      rw [interface_addManagement, if_neg (Nat.ne_of_lt (inside other id listed))]
    rw [ports_addManagement]
    split
    case isFalse =>
      rw [names]
      exact apart.interfaces other
    case isTrue here =>
      obtain ⟨rfl, _⟩ := here
      have fresh :
          name ∉ (network.node node).interfaces.map fun id => (network.interface id).name := by
        intro known
        obtain ⟨id, listed, same⟩ := List.mem_map.mp known
        exact List.find?_eq_none.mp new id listed (beq_iff_eq.mpr same)
      rw [List.map_append, names, List.map_singleton, interface_addManagement, if_pos rfl,
        ← List.concat_eq_append]
      exact .concat fresh (apart.interfaces node)

/-- Management interfaces keep names apart. -/
theorem NamesApart.addInterfaces (apart : before.NamesApart) (inside : before.PortsInside)
    (run : (Management.addInterfaces config).outcome before = (.ok (), after)) :
    after.NamesApart := by
  let steady (current : Network) : Prop := current.NamesApart ∧ current.PortsInside
  have kept : steady after := Management.addInterfaces_induction
    (fun _ _ name className _ new holds =>
      ⟨holds.1.addManagement holds.2 new className, holds.2.addManagement name className⟩)
    (fun _ _ _ _ acts holds => ⟨holds.1.congr (sameNames_interfaceActs acts),
      holds.2.congr (sameNames_interfaceActs acts)⟩) run ⟨apart, inside⟩
  exact kept.1

/-- Connections have names of their own. -/
theorem sameNames_nameConnections
    (run : Naming.nameConnections.outcome before = (.ok (), after)) : SameNames before after := by
  rw [Stage.outcome_modify_eq_ok.mp run]
  exact sameNames.foldl (fun current => current)
    (fun _ _ => sameNames_updateConnection _ _ _) before _

section Resolution

open Stage

variable {extra : ExtraClasses} {built resolved : Network}

/-- In a resolved network names are apart, if interfaces were listed at their nodes. -/
theorem namesApart_of_resolve (listed : built.PortsListed)
    (run : (resolve config extra).outcome built = (.ok (), resolved)) : resolved.NamesApart := by
  obtain ⟨classified, nodes, interfaces, named, managed, classes, nodeNames, interfaceNames,
    connectionNames, management, members⟩ := resolve_stages run
  have listed := (ClassEffects.resolveClasses_within portsListed_tolerant extra).holds classes
    listed
  have listed := (Naming.nameNodes_within portsListed_tolerant.nameless config).holds nodeNames
    listed
  have ports := Naming.interfacesNamed_of_nameInterfaces listed interfaceNames
  have listed := (Naming.nameInterfaces_within portsListed_tolerant.nameless).holds interfaceNames
    listed
  have apart : interfaces.NamesApart := by
    refine ⟨?_, ports.different⟩
    unfold nodeIds node
    rw [ports.nodes]
    exact (Naming.nodesNamed_of_nameNodes nodeNames).different
  have inside : interfaces.PortsInside :=
    fun _ _ member => ((ListedOnce.mem_iff listed).mp member).1
  have joined := sameNames_nameConnections connectionNames
  have widened : managed.NamesApart :=
    (apart.congr joined).addInterfaces (inside.congr joined) management
  have adds : Within (.ofInvariant NamesApart) (Membership.build config) :=
    Membership.build_within fun network member _ _ apart =>
      apart.congr (network.sameNames_addMember member)
  exact adds.holds members widened

end Resolution

end TopoPlan.Network

namespace TopoPlan.Naming

open Network Stage

/-- What naming makes of a network. -/
structure NamesObjects (config : Config) (network : Network) : Prop where
  /-- Nodes are named when the names that they keep are pairwise different. -/
  nodes_iff : (∃ after, outcome (nameNodes config) network = (.ok (), after)) ↔
    config.settings.renamesNodes = true ∨
      ((network.nodeIds.map fun id => (network.node id).name).filter (!·.isEmpty)).Nodup
  nodes : ∀ after, outcome (nameNodes config) network = (.ok (), after) →
    NodesNamed config network after
  /-- Interfaces are named when the names given at each node are pairwise different. -/
  interfaces_iff : (∃ after, outcome nameInterfaces network = (.ok (), after)) ↔
    ∀ node, (((network.node node).interfaces.map fun id =>
      (network.interface id).name).filter (!·.isEmpty)).Nodup
  interfaces : ∀ after, outcome nameInterfaces network = (.ok (), after) →
    InterfacesNamed network after
  /-- No interface is left without a name. -/
  named : ∀ node, (outcome nameInterfaces network).1 ≠ .error (.unnamedInterface node)
  /-- In a resolved network names are apart, those of management interfaces included. -/
  resolved : ∀ extra after, outcome (resolve config extra) network = (.ok (), after) →
    after.NamesApart

/-- Naming succeeds when the given names do not contradict each other, and it gives the least
names, all different, wherever interfaces are listed once, at their nodes. -/
theorem namesObjects_of_listed (config : Config) (network : Network)
    (listed : network.PortsListed) : NamesObjects config network where
  nodes_iff := by
    rw [← nodup_givenNodeNames]
    constructor
    · rintro ⟨after, run⟩
      exact (nameNodes_eq_ok_iff.mp run).1
    · intro given
      exact ⟨_, nameNodes_eq_ok_iff.mpr ⟨given, rfl⟩⟩
  nodes _ := nodesNamed_of_nameNodes
  interfaces_iff := exists_nameInterfaces_iff listed
  interfaces _ := interfacesNamed_of_nameInterfaces listed
  named node failed := by
    rcases nameInterfaces_cases listed with ⟨_, success, _⟩ | ⟨⟨_, _, failure⟩, _⟩
    · rw [success] at failed
      cases failed
    · rw [failure] at failed
      cases failed
  resolved _ _ := namesApart_of_resolve listed

/-- Two classes of nodes whose names may coincide, one of them with management interfaces. -/
def routersAndBranches : Config where
  management := some { name := "management", range := "10.0.0.0/24" }
  nodeClasses :=
    [{ name := "router", primary := true, stem := some "r", managementClass := some "port" },
      { name := "branch", primary := true, stem := some "r1" }]
  interfaceClasses := [{ name := "port" }]

/-- Four nodes and three interfaces, most of them without a name. -/
def partlyNamed : Network where
  nodes := #[{ labels := { classes := ["router"] }, interfaces := [0, 1] }, { name := "r11" },
    { labels := { classes := ["branch"] }, interfaces := [2] },
    { labels := { classes := ["router"] } }]
  interfaces := #[{ node := 0 }, { name := "net0", node := 0 }, { node := 2 }]

/-- The branch cannot have its first number, and both routers get a management interface. -/
theorem namesObjects_of_listed_partlyNamed :
    partlyNamed.PortsListed ∧ NamesObjects routersAndBranches partlyNamed ∧
      (outcome (resolve routersAndBranches {}) partlyNamed).1.isOk = true ∧
      (outcome (resolve routersAndBranches {}) partlyNamed).2.nodes.toList.map (·.name) =
        ["r1", "r11", "r12", "r2"] ∧
      (outcome (resolve routersAndBranches {}) partlyNamed).2.interfaces.toList.map (·.name) =
        ["net1", "net0", "net0", "mgmt", "mgmt"] := by
  have listed : partlyNamed.PortsListed := by
    intro place id
    have bare : (default : Node).interfaces = [] := rfl
    obtain _ | _ | _ | _ | place := place <;> obtain _ | _ | _ | id := id <;>
      simp [partlyNamed, Network.node, Network.interface, bare]
  have named := namesObjects_of_listed routersAndBranches partlyNamed listed
  exact ⟨listed, named, by decide +kernel, by decide +kernel, by decide +kernel⟩

end TopoPlan.Naming
