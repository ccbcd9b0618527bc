import TopoPlan.Proofs.Network.ClassVisits
import TopoPlan.Proofs.Network.Coherence
import TopoPlan.Proofs.Network.FreshNames

/-!
# Names of nodes and interfaces

Naming sees the titles of objects only: the name that an object has and the stem of a new
one.  So what is known of titles that are named one by one holds of the nodes of a network,
and of the interfaces of each node, which are named apart from those of other nodes.
`NodesNamed` and `InterfacesNamed` say what a network is like then.
-/

namespace TopoPlan

namespace Network

/-- Every interface is listed once, at its own node. -/
def PortsListed (network : Network) : Prop :=
  ListedOnce network.interfaces.size (fun id => (network.interface id).node)
    fun id => (network.node id).interfaces

/-- Interfaces are listed as long as objects are joined in the same way. -/
theorem PortsListed.congr {before after : Network} (listed : before.PortsListed)
    (same : SameLinks before after) : after.PortsListed :=
  ListedOnce.congr listed same.interfaceCount same.node same.ports

/-- The lists of the interfaces survive every step of resolution. -/
theorem portsListed_tolerant : (Frame.ofInvariant PortsListed).Tolerant :=
  shape_tolerant.mono fun _ _ same listed => listed.congr same.toSameLinks

/-- The names and stems of nodes. -/
def nodeTitles (network : Network) : NodeId → Title :=
  (fun node => { name := node.name, stem := node.stem }) ∘ network.node

/-- The names and stems of interfaces. -/
def interfaceTitles (network : Network) : InterfaceId → Title :=
  (fun interface => { name := interface.name, stem := interface.stem }) ∘ network.interface

/-- A renamed node is one update of the titles of the nodes. -/
theorem nodeTitles_updateNode {network : Network} {id : NodeId}
    (inside : id < network.nodes.size) (name : String) :
    (network.updateNode id fun node => { node with name }).nodeTitles =
      Function.update network.nodeTitles id { network.nodeTitles id with name } := by
  rw [nodeTitles, node_updateNode_eq_update inside, Function.comp_update]
  rfl

/-- A renamed interface is one update of the titles of the interfaces. -/
theorem interfaceTitles_updateInterface {network : Network} {id : InterfaceId}
    (inside : id < network.interfaces.size) (name : String) :
    (network.updateInterface id fun interface => { interface with name }).interfaceTitles =
      Function.update network.interfaceTitles id { network.interfaceTitles id with name } := by
  rw [interfaceTitles, interface_updateInterface_eq_update inside, Function.comp_update]
  rfl

end Network

namespace Naming

open Network Stage

/-- What naming sees of a network: the names in use and the titles of some objects. -/
def seen (titles : Network → Nat → Title) (state : NamePool × Network) :
    NamePool × (Nat → Title) :=
  (state.1, titles state.2)

section Steps

variable (titles : Network → Nat → Title) (size : Network → Nat)
  {step : NamePool × Network → Nat → NamePool × Network} {start : Nat} {keeps : String → Bool}
  (names : ∀ state id, id < size state.2 →
    seen titles (step state id) = nameTitle start keeps (seen titles state) id)
  (sizes : ∀ state id, size (step state id).2 = size state.2) {ids : List Nat}

include names sizes

/-- A step that names one title names the titles of a list one by one. -/
theorem seen_foldl {state : NamePool × Network} (inside : ∀ id ∈ ids, id < size state.2) :
    seen titles (ids.foldl step state) = ids.foldl (nameTitle start keeps) (seen titles state) := by
  induction ids generalizing state with
  | nil => rfl
  | cons id rest inductionHypothesis =>
    obtain ⟨first, others⟩ := List.forall_mem_cons.mp inside
    rw [List.foldl_cons, List.foldl_cons, ← names state id first]
    apply inductionHypothesis
    rw [sizes]
    exact others

/-- Objects that are named one by one get the least names, and no others are renamed. -/
theorem leastNames_foldl (given : List String) (once : ids.Nodup) {network : Network}
    (inside : ∀ id ∈ ids, id < size network) :
    LeastNames start keeps given ids (titles network)
        (titles (ids.foldl step ({ taken := NameSet.addAll {} given }, network)).2) ∧
      ∀ id, id ∉ ids →
        titles (ids.foldl step ({ taken := NameSet.addAll {} given }, network)).2 id =
          titles network id := by
  have named := named_foldl start keeps given (titles network) once
  have run : seen titles (ids.foldl step ({ taken := NameSet.addAll {} given }, network)) =
      ids.foldl (nameTitle start keeps) ({ taken := NameSet.addAll {} given }, titles network) :=
    seen_foldl titles size names sizes inside
  rw [← run] at named
  exact ⟨named.least, named.others⟩

end Steps

/-- Naming a node is naming one title. -/
theorem seen_nameNode {keepNames : Bool} {state : NamePool × Network} {id : NodeId}
    (inside : id < state.2.nodes.size) :
    seen nodeTitles (nameNode keepNames state id) =
      nameTitle 1 (fun name => keepNames && !name.isEmpty) (seen nodeTitles state) id := by
  cases keep : keepNames && !(state.2.node id).name.isEmpty with
  | true =>
    rw [nameTitle_of_keeps keep]
    exact congrArg (seen nodeTitles) (if_pos keep)
  | false =>
    rw [nameTitle_of_changes keep]
    refine (congrArg (seen nodeTitles) (if_neg (ne_true_of_eq_false keep))).trans ?_
    exact Prod.ext rfl (nodeTitles_updateNode inside _)

/-- Naming an interface is naming one title. -/
theorem seen_nameInterface {state : NamePool × Network} {id : InterfaceId}
    (inside : id < state.2.interfaces.size) :
    seen interfaceTitles (nameInterface state id) =
      nameTitle 0 (fun name => !name.isEmpty) (seen interfaceTitles state) id := by
  cases keep : !(state.2.interface id).name.isEmpty with
  | true =>
    rw [nameTitle_of_keeps keep]
    exact congrArg (seen interfaceTitles) (if_pos keep)
  | false =>
    rw [nameTitle_of_changes keep]
    refine (congrArg (seen interfaceTitles) (if_neg (ne_true_of_eq_false keep))).trans ?_
    exact Prod.ext rfl (interfaceTitles_updateInterface inside _)

/-! ## Nodes -/

/-- Names of nodes are kept, unless the settings say otherwise. -/
def keepsNode (config : Config) (name : String) : Bool :=
  !config.settings.renamesNodes && !name.isEmpty

/-- The names of nodes that are kept. -/
def givenNodeNames (config : Config) (network : Network) : List String :=
  givenNames (keepsNode config) network.nodeIds network.nodeTitles

/-- Nodes have names, no two the same: given ones and least ones. -/
structure NodesNamed (config : Config) (before after : Network) : Prop where
  least : LeastNames 1 (keepsNode config) (givenNodeNames config before) before.nodeIds
    before.nodeTitles after.nodeTitles
  nonempty : ∀ id ∈ after.nodeIds, (after.node id).name ≠ ""
  different : (after.nodeIds.map fun id => (after.node id).name).Nodup

section Nodes

variable {config : Config} {network after : Network}

/-- Nodes in order are the nodes at their positions. -/
theorem map_nodes {β : Type} (field : Node → β) (network : Network) :
    network.nodes.toList.map field = network.nodeIds.map fun id => field (network.node id) := by
  apply List.ext_getElem
  · simp [nodeIds]
  · intro position inside _
    have below : position < network.nodes.size := by simpa using inside
    simp [nodeIds, node, below]

/-- The nodes of a network after they were named. -/
def namedNodes (config : Config) (network : Network) : Network :=
  (network.nodeIds.foldl (nameNode !config.settings.renamesNodes)
    ({ taken := NameSet.addAll {} (givenNodeNames config network) }, network)).2

theorem size_nameNode (keepNames : Bool) (state : NamePool × Network) (id : NodeId) :
    (nameNode keepNames state id).2.nodes.size = state.2.nodes.size :=
  congrArg Counts.nodes (nameNode_holds counted_tolerant.nameless keepNames state id)

/-- Naming the nodes adds none. -/
theorem nodeIds_namedNodes (config : Config) (network : Network) :
    (namedNodes config network).nodeIds = network.nodeIds := by
  have counts : (namedNodes config network).counts = network.counts :=
    counted.foldl Prod.snd (fun state id =>
      nameNode_holds counted_tolerant.nameless _ state id) _ _
  exact congrArg (fun counts => List.range counts.nodes) counts

/-- Nodes are named one by one, then their names are compared. -/
theorem outcome_nameNodes (config : Config) (network : Network) :
    outcome (nameNodes config) network =
      (match NamePool.firstRepeated []
          ((namedNodes config network).nodeIds.map fun id =>
            ((namedNodes config network).node id).name) with
        | some name => .error (.duplicateName "node" name)
        | none => .ok (), namedNodes config network) := by
  have given : givenNodeNames config network =
      (network.nodes.toList.map (·.name)).filter (keepsNode config) := by
    rw [map_nodes]
    rfl
  rw [← map_nodes fun node => node.name, namedNodes, given, nameNodes, outcome_get_bind]
  unfold keepsNode
  dsimp only
  rw [outcome_bind, outcome_set]
  dsimp only
  generalize NamePool.firstRepeated [] _ = repeated
  cases repeated <;> rfl

/-- Nodes keep their names or get the least ones. -/
theorem leastNames_namedNodes (config : Config) (network : Network) :
    LeastNames 1 (keepsNode config) (givenNodeNames config network) network.nodeIds
      network.nodeTitles (namedNodes config network).nodeTitles :=
  (leastNames_foldl nodeTitles (fun network => network.nodes.size)
    (fun _ _ inside => seen_nameNode inside) (fun state id => size_nameNode _ state id) _
    List.nodup_range fun _ listed => List.mem_range.mp listed).1

/-- Nodes are named when the given names that are kept are pairwise different. -/
theorem nameNodes_eq_ok_iff : outcome (nameNodes config) network = (.ok (), after) ↔
    (givenNodeNames config network).Nodup ∧ after = namedNodes config network := by
  have different :
      (network.nodeIds.map fun id => ((namedNodes config network).node id).name).Nodup ↔
        (givenNodeNames config network).Nodup :=
    (leastNames_namedNodes config network).nodup_iff
  rw [outcome_nameNodes, nodeIds_namedNodes, ← different, ← NamePool.firstRepeated_eq_none]
  generalize NamePool.firstRepeated [] _ = repeated
  cases repeated <;> simp [eq_comm]

/-- Nodes that were named have names, no two the same. -/
theorem nodesNamed_of_nameNodes (run : outcome (nameNodes config) network = (.ok (), after)) :
    NodesNamed config network after := by
  obtain ⟨given, rfl⟩ := nameNodes_eq_ok_iff.mp run
  have least := leastNames_namedNodes config network
  constructor
  case least => exact least
  case nonempty =>
    rw [nodeIds_namedNodes]
    intro id listed
    exact String.isEmpty_eq_false_iff.mp (least.isEmpty (by simp [keepsNode]) id listed)
  case different =>
    rw [nodeIds_namedNodes]
    exact least.nodup_iff.mpr given

/-- Names that were given count unless all nodes are renamed. -/
theorem nodup_givenNodeNames : (givenNodeNames config network).Nodup ↔
    config.settings.renamesNodes = true ∨
      ((network.nodeIds.map fun id => (network.node id).name).filter (!·.isEmpty)).Nodup := by
  unfold givenNodeNames givenNames keepsNode
  cases config.settings.renamesNodes with
  | true => simp
  | false => simp [nodeTitles]

end Nodes

/-! ## Interfaces -/

/-- Names of interfaces are kept. -/
def keepsInterface (name : String) : Bool := !name.isEmpty

/-- The names of interfaces of a node that are kept. -/
def givenInterfaceNames (network : Network) (node : NodeId) : List String :=
  givenNames keepsInterface (network.node node).interfaces network.interfaceTitles

/-- Interfaces have names, no two of a node the same: given ones and least ones. -/
structure InterfacesNamed (before after : Network) : Prop where
  least : ∀ node, LeastNames 0 keepsInterface (givenInterfaceNames before node)
    (before.node node).interfaces before.interfaceTitles after.interfaceTitles
  nodes : after.nodes = before.nodes
  nonempty : ∀ node, ∀ id ∈ (after.node node).interfaces, (after.interface id).name ≠ ""
  different : ∀ node,
    ((after.node node).interfaces.map fun id => (after.interface id).name).Nodup

/-- What is known once the interfaces of the first so many nodes have been named. -/
structure NamedBelow (network : Network) (bound : Nat) (current : Network) : Prop where
  nodes : current.nodes = network.nodes
  size : current.interfaces.size = network.interfaces.size
  given : ∀ node < bound, (givenInterfaceNames network node).Nodup
  least : ∀ node < bound, LeastNames 0 keepsInterface (givenInterfaceNames network node)
    (network.node node).interfaces network.interfaceTitles current.interfaceTitles
  rest : ∀ node, bound ≤ node → ∀ id ∈ (network.node node).interfaces,
    current.interfaceTitles id = network.interfaceTitles id

section Interfaces

variable {network after : Network} {node : NodeId} {ids : List InterfaceId}

/-- The interfaces of a node after they were named. -/
def namedInterfacesOf (network : Network) (node : NodeId) : Network :=
  ((network.node node).interfaces.foldl nameInterface
    ({ taken := NameSet.addAll {} (givenInterfaceNames network node) }, network)).2

/-- Interfaces of a node are named one by one, then their names are compared. -/
theorem outcome_nameInterfacesOf (network : Network) (node : NodeId) :
    outcome (nameInterfacesOf node) network =
      (checkInterfaces (namedInterfacesOf network node) node [] (network.node node).interfaces,
        namedInterfacesOf network node) := by
  rw [nameInterfacesOf, outcome_get_bind]
  dsimp only
  rw [outcome_bind, outcome_set]
  exact outcome_ofExcept _ _

/-- Naming interfaces changes no nodes, and there are as many interfaces as before. -/
theorem others_nameInterface (state : NamePool × Network) (id : InterfaceId) :
    (nameInterface state id).2.nodes = state.2.nodes ∧
      (nameInterface state id).2.interfaces.size = state.2.interfaces.size := by
  unfold nameInterface
  dsimp only
  split
  · exact ⟨rfl, rfl⟩
  · exact ⟨rfl, size_interfaces_updateInterface _ _ _⟩

/-- Naming the interfaces of a node changes no node and adds no interface. -/
theorem others_namedInterfacesOf (network : Network) (node : NodeId) :
    (namedInterfacesOf network node).nodes = network.nodes ∧
      (namedInterfacesOf network node).interfaces.size = network.interfaces.size := by
  let others : Frame :=
    { holds before after :=
        after.nodes = before.nodes ∧ after.interfaces.size = before.interfaces.size
      refl _ := ⟨rfl, rfl⟩
      trans first second := ⟨second.1.trans first.1, second.2.trans first.2⟩ }
  exact others.foldl Prod.snd others_nameInterface (_, network) _

/-- Interfaces with names pass the check, or one of them has the name of an earlier one. -/
theorem checkInterfaces_cases (node : NodeId) (seen : List String)
    (named : ∀ id ∈ ids, (network.interface id).name.isEmpty = false) :
    checkInterfaces network node seen ids = .ok () ∧
        NamePool.firstRepeated seen (ids.map fun id => (network.interface id).name) = none ∨
      (∃ key, checkInterfaces network node seen ids = .error (.duplicateName "interface" key)) ∧
        NamePool.firstRepeated seen (ids.map fun id => (network.interface id).name) ≠ none := by
  induction ids generalizing seen with
  | nil => exact .inl ⟨rfl, rfl⟩
  | cons id rest inductionHypothesis =>
    obtain ⟨first, others⟩ := List.forall_mem_cons.mp named
    unfold checkInterfaces
    dsimp only
    rw [first, if_neg Bool.false_ne_true, List.map_cons]
    unfold NamePool.firstRepeated
    by_cases known : seen.contains (network.interface id).name = true
    · rw [if_pos known, if_pos known]
      exact .inr ⟨⟨_, rfl⟩, Option.some_ne_none _⟩
    · rw [if_neg known, if_neg known]
      exact inductionHypothesis _ others

/-- What naming the interfaces of a node makes of their titles. -/
theorem leastNames_namedInterfacesOf (once : (network.node node).interfaces.Nodup)
    (inside : ∀ id ∈ (network.node node).interfaces, id < network.interfaces.size) :
    LeastNames 0 keepsInterface (givenInterfaceNames network node) (network.node node).interfaces
        network.interfaceTitles (namedInterfacesOf network node).interfaceTitles ∧
      ∀ id, id ∉ (network.node node).interfaces →
        (namedInterfacesOf network node).interfaceTitles id = network.interfaceTitles id :=
  leastNames_foldl interfaceTitles (fun network => network.interfaces.size)
    (fun _ _ inside => seen_nameInterface inside)
    (fun state id => (others_nameInterface state id).2) _ once inside

/-- The interfaces of a node are named when their given names are pairwise different, and the
only other outcome is that two names are the same. -/
theorem nameInterfacesOf_cases (once : (network.node node).interfaces.Nodup)
    (inside : ∀ id ∈ (network.node node).interfaces, id < network.interfaces.size) :
    outcome (nameInterfacesOf node) network = (.ok (), namedInterfacesOf network node) ∧
        (givenInterfaceNames network node).Nodup ∨
      (∃ key, outcome (nameInterfacesOf node) network =
          (.error (.duplicateName "interface" key), namedInterfacesOf network node)) ∧
        ¬ (givenInterfaceNames network node).Nodup := by
  have least := (leastNames_namedInterfacesOf once inside).1
  have different : ((network.node node).interfaces.map fun id =>
      ((namedInterfacesOf network node).interface id).name).Nodup ↔
        (givenInterfaceNames network node).Nodup :=
    least.nodup_iff
  rw [outcome_nameInterfacesOf, ← different, ← NamePool.firstRepeated_eq_none]
  rcases checkInterfaces_cases node [] (least.isEmpty rfl) with
    ⟨passes, unrepeated⟩ | ⟨⟨key, fails⟩, repeated⟩
  · exact .inl ⟨by rw [passes], unrepeated⟩
  · exact .inr ⟨⟨key, by rw [fails]⟩, repeated⟩

namespace NamedBelow

variable {current : Network}

/-- The interfaces that nodes list stay the same while they are named. -/
theorem ports (named : NamedBelow network node current) (other : NodeId) :
    (current.node other).interfaces = (network.node other).interfaces := by
  rw [Network.node, named.nodes, Network.node]

/-- The names that interfaces of a node were given are there when it is the turn of the node. -/
theorem givenNames_eq (named : NamedBelow network node current) :
    givenInterfaceNames current node = givenInterfaceNames network node := by
  unfold givenInterfaceNames givenNames
  rw [named.ports]
  congr 1
  apply List.map_congr_left
  intro id listed
  rw [named.rest node (Nat.le_refl _) id listed]

end NamedBelow

section Listed

variable (listed : network.PortsListed)

include listed

/-- When it is the turn of a node, its interfaces are named or two of them have one name. -/
theorem NamedBelow.turn {current : Network} (named : NamedBelow network node current) :
    outcome (nameInterfacesOf node) current = (.ok (), namedInterfacesOf current node) ∧
        (givenInterfaceNames network node).Nodup ∨
      (∃ key, outcome (nameInterfacesOf node) current =
          (.error (.duplicateName "interface" key), namedInterfacesOf current node)) ∧
        ¬ (givenInterfaceNames network node).Nodup := by
  rw [← named.givenNames_eq]
  apply nameInterfacesOf_cases
  · rw [named.ports]
    exact listed.nodup node
  · rw [named.ports, named.size]
    exact fun id member => (listed.mem_iff.mp member).1

/-- The interfaces of one node more have been named. -/
theorem NamedBelow.next {current : Network} (named : NamedBelow network node current)
    (given : (givenInterfaceNames network node).Nodup) :
    NamedBelow network (node + 1) (namedInterfacesOf current node) := by
  have once : (current.node node).interfaces.Nodup := named.ports node ▸ listed.nodup node
  have inside : ∀ id ∈ (current.node node).interfaces, id < current.interfaces.size := by
    rw [named.ports, named.size]
    exact fun id member => (listed.mem_iff.mp member).1
  obtain ⟨least, others⟩ := leastNames_namedInterfacesOf once inside
  obtain ⟨nodes, size⟩ := others_namedInterfacesOf current node
  rw [named.ports] at others
  have apart {other : NodeId} (different : other ≠ node) (id : InterfaceId)
      (member : id ∈ (network.node other).interfaces) :
      (namedInterfacesOf current node).interfaceTitles id = current.interfaceTitles id := by
    apply others
    intro here
    exact different ((listed.mem_iff.mp member).2.symm.trans (listed.mem_iff.mp here).2)
  constructor
  case nodes => exact nodes.trans named.nodes
  case size => exact size.trans named.size
  case given =>
    intro other below
    rcases Nat.lt_succ_iff_lt_or_eq.mp below with below | rfl
    · exact named.given other below
    · exact given
  case least =>
    intro other below
    rcases Nat.lt_succ_iff_lt_or_eq.mp below with below | rfl
    · exact (named.least other below).congr (fun _ _ => rfl) (apart (Nat.ne_of_lt below))
    · rw [named.givenNames_eq, named.ports] at least
      exact least.congr (fun id member => (named.rest other (Nat.le_refl _) id member).symm)
        fun _ _ => rfl
  case rest =>
    intro other above id member
    have different : other ≠ node := Nat.ne_of_gt above
    rw [apart different id member]
    exact named.rest other (Nat.le_of_succ_le above) id member

/-- The interfaces of all nodes are named, or two interfaces of a node were given one name. -/
theorem nameInterfaces_cases :
    (∃ after, outcome nameInterfaces network = (.ok (), after) ∧
        NamedBelow network network.nodes.size after) ∨
      (∃ key after, outcome nameInterfaces network =
          (.error (.duplicateName "interface" key), after)) ∧
        ∃ node, ¬ (givenInterfaceNames network node).Nodup := by
  have start : NamedBelow network 0 network := by
    refine ⟨rfl, rfl, ?_, ?_, fun _ _ _ _ => rfl⟩
    · exact fun node below => absurd below (Nat.not_lt_zero node)
    · exact fun node below => absurd below (Nat.not_lt_zero node)
  have each (node : NodeId) (_ : node < network.nodes.size) (before next : Network)
      (run : outcome (nameInterfacesOf node) before = (.ok (), next))
      (named : NamedBelow network node before) : NamedBelow network (node + 1) next := by
    rcases named.turn listed with ⟨success, given⟩ | ⟨⟨_, failure⟩, _⟩
    · cases run.symm.trans success
      exact named.next listed given
    · cases run.symm.trans failure
  rcases outcome_forM_range_cases (NamedBelow network) each start with
    success | ⟨node, _, before, error, next, named, failed, all⟩
  · exact .inl success
  · rcases named.turn listed with ⟨success, _⟩ | ⟨⟨key, failure⟩, repeated⟩
    · cases failed.symm.trans success
    · cases failed.symm.trans failure
      exact .inr ⟨⟨key, _, all⟩, node, repeated⟩

/-- Interfaces are named when the names given at each node are pairwise different. -/
theorem exists_nameInterfaces_iff :
    (∃ after, outcome nameInterfaces network = (.ok (), after)) ↔
      ∀ node, (givenInterfaceNames network node).Nodup := by
  constructor
  · rintro ⟨after, run⟩ node
    rcases Nat.lt_or_ge node network.nodes.size with inside | outside
    · rcases nameInterfaces_cases listed with ⟨_, _, named⟩ | ⟨⟨_, _, failure⟩, _⟩
      · exact named.given node inside
      · cases run.symm.trans failure
    · unfold givenInterfaceNames Network.node
      rw [getD_of_size_le outside]
      exact List.nodup_nil
  · intro given
    rcases nameInterfaces_cases listed with ⟨after, success, _⟩ | ⟨_, node, repeated⟩
    · exact ⟨after, success⟩
    · exact absurd (given node) repeated

/-- Interfaces that were named have names, no two of a node the same. -/
theorem interfacesNamed_of_nameInterfaces
    (run : outcome nameInterfaces network = (.ok (), after)) : InterfacesNamed network after := by
  rcases nameInterfaces_cases listed with ⟨_, success, named⟩ | ⟨⟨_, _, failure⟩, _⟩
  case inr => cases run.symm.trans failure
  case inl =>
    cases run.symm.trans success
    have given := (exists_nameInterfaces_iff listed).mp ⟨_, run⟩
    have least (node : NodeId) : LeastNames 0 keepsInterface (givenInterfaceNames network node)
        (network.node node).interfaces network.interfaceTitles after.interfaceTitles := by
      rcases Nat.lt_or_ge node network.nodes.size with inside | outside
      · exact named.least node inside
      · unfold Network.node
        rw [getD_of_size_le outside]
        exact ⟨List.forall_mem_nil _, List.forall_mem_nil _⟩
    constructor
    case least => exact least
    case nodes => exact named.nodes
    case nonempty =>
      intro node id member
      rw [named.ports] at member
      exact String.isEmpty_eq_false_iff.mp ((least node).isEmpty rfl id member)
    case different =>
      intro node
      rw [named.ports]
      exact (least node).nodup_iff.mpr (given node)

end Listed

end Interfaces

end Naming

end TopoPlan
