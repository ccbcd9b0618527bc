import TopoPlan.Proofs.Config.Definitions
import TopoPlan.Proofs.Network.ClassVisits
import TopoPlan.Proofs.Network.PrimaryClasses

/-!
# Virtual marks of links

A connection is virtual through one of its own classes or through a class of an interface
at one of its ends.  Interfaces are visited in order of position, and the source of a
connection comes before its target, so a mark that a class of the target sets is not seen
by the source any more.  The main statement, `virtualMarks_of_resolveClasses`, says which
marks the connection and its two ends have.
-/

namespace TopoPlan

/-- Whether one of these interface classes is virtual. -/
def Config.marksInterface (config : Config) (names : List String) : Bool :=
  (names.filterMap config.interfaceClass?).any (·.isVirtual)

/-- Whether one of these connection classes is virtual. -/
def Config.marksConnection (config : Config) (names : List String) : Bool :=
  (names.filterMap config.connectionClass?).any (·.isVirtual)

/-- Whether one of the definitions of names has a property, after one more name. -/
theorem any_append {α : Type} {find : String → Option α} {property : α → Bool} {name : String}
    {definition : α} (found : find name = some definition) (names : List String) :
    ((names ++ [name]).filterMap find).any property =
      ((names.filterMap find).any property || property definition) := by
  rw [filterMap_append_found found, List.any_append, List.any_cons, List.any_nil, Bool.or_false]

/-- One more class marks an interface if it is virtual. -/
theorem Config.marksInterface_append {config : Config} (valid : config.validate = .ok ())
    {definition : InterfaceClass} (listed : definition ∈ config.interfaceClasses)
    (names : List String) :
    config.marksInterface (names ++ [definition.name]) =
      (config.marksInterface names || definition.isVirtual) :=
  any_append (config.interfaceClass?_of_mem valid listed) names

/-- One more class marks a connection if it is virtual. -/
theorem Config.marksConnection_append {config : Config} (valid : config.validate = .ok ())
    {definition : ConnectionClass} (listed : definition ∈ config.connectionClasses)
    (names : List String) :
    config.marksConnection (names ++ [definition.name]) =
      (config.marksConnection names || definition.isVirtual) :=
  any_append (config.connectionClass?_of_mem valid listed) names

namespace Network

/-- Whether the node of an interface is virtual. -/
def nodeMark (network : Network) (id : InterfaceId) : Bool :=
  (network.node (network.interface id).node).isVirtual

/-- Whether a class of an interface is virtual. -/
def ownMark (config : Config) (network : Network) (id : InterfaceId) : Bool :=
  config.marksInterface (network.interface id).classes

/-- Whether a class of a connection is virtual. -/
def lineMark (config : Config) (network : Network) (id : ConnectionId) : Bool :=
  config.marksConnection (network.connection id).classes

/-- The marks of a connection and of its two ends: a class of the source reaches all three,
a class of the target reaches the connection and the target only. -/
structure VirtualMarks (config : Config) (network : Network) (id : ConnectionId) : Prop where
  connection : (network.connection id).isVirtual =
    (network.lineMark config id || network.ownMark config (network.connection id).source ||
      network.ownMark config (network.connection id).target)
  source : (network.interface (network.connection id).source).isVirtual =
    (network.nodeMark (network.connection id).source || network.lineMark config id ||
      network.ownMark config (network.connection id).source)
  target : (network.interface (network.connection id).target).isVirtual =
    (network.nodeMark (network.connection id).target || (network.connection id).isVirtual)

/-! ## Ends in order -/

/-- References lead both ways, and the source of every connection comes before its target. -/
structure Directed (network : Network) : Prop where
  linked : network.Linked
  ascending : ∀ id < network.connections.size,
    (network.connection id).source < (network.connection id).target

/-- The direction of the connections survives every step of resolution. -/
theorem directed_tolerant : (Frame.ofInvariant Directed).Tolerant :=
  shape_tolerant.mono fun before after same directed =>
    { linked := same.linked directed.linked
      ascending := fun id inside => by
        rw [same.source, same.target]
        exact directed.ascending id (same.connectionCount ▸ inside) }

/-- The two interfaces of an edge are added one after the other. -/
theorem directed_of_ofTopology {config : Config} {topology : Topology} {built : Network}
    (made : ofTopology config topology = .ok built) : built.Directed := by
  refine ⟨(prepared_of_ofTopology made).linked, ?_⟩
  let ascending (current : Network) : Prop := ∀ id < current.connections.size,
    (current.connection id).source < (current.connection id).target
  change ascending built
  refine ofTopology_induction made (fun _ _ inside => nomatch inside)
    (fun network edge source target _ _ holds id inside => ?_) fun network given nodes _ holds => ?_
  · unfold Network.addEdge at inside ⊢
    rw [size_connections_addConnection] at inside
    rw [connection_addConnection]
    split
    case isTrue => exact Nat.lt_succ_self _
    case isFalse old => exact holds id (Nat.lt_of_le_of_ne (Nat.lt_succ_iff.mp inside) old)
  · unfold ascending Network.addGroup
    dsimp only
    rw [foldl_updateNode]
    exact holds

/-! ## Visits of interfaces -/

/-- The marks when so many interfaces have been visited: classes of the others have not
acted yet. -/
structure Marked (config : Config) (position : Nat) (network : Network) : Prop where
  directed : network.Directed
  connections : ∀ id < network.connections.size, (network.connection id).isVirtual =
    (network.lineMark config id || network.ownMark config (network.connection id).source ||
      network.ownMark config (network.connection id).target)
  sources : ∀ id < network.connections.size, (network.connection id).source < position →
    (network.interface (network.connection id).source).isVirtual =
      (network.nodeMark (network.connection id).source || network.lineMark config id ||
        network.ownMark config (network.connection id).source)
  targets : ∀ id < network.connections.size, (network.connection id).target < position →
    (network.interface (network.connection id).target).isVirtual =
      (network.nodeMark (network.connection id).target || (network.connection id).isVirtual)
  unvisited : ∀ id, position ≤ id → (network.interface id).classes = []

section Visits

variable {config : Config} {network : Network} {position : Nat}

/-- An interface that is not visited yet has no mark of its own. -/
theorem Marked.ownMark_of_unvisited (marked : network.Marked config position) {id : InterfaceId}
    (later : position ≤ id) : network.ownMark config id = false := by
  rw [ownMark, marked.unvisited id later]
  rfl

section Starts

variable (inside : position < network.interfaces.size)

include inside

theorem classes_startInterface (id : InterfaceId) :
    ((network.startInterface config position).interface id).classes =
      (network.interface id).classes :=
  interface_startInterface_field network position Interface.classes (fun _ _ _ _ _ _ => rfl)
    (fun _ _ _ => rfl) inside id

theorem ownMark_startInterface (id : InterfaceId) :
    (network.startInterface config position).ownMark config id = network.ownMark config id :=
  congrArg config.marksInterface (classes_startInterface inside id)

theorem nodeMark_startInterface (id : InterfaceId) :
    (network.startInterface config position).nodeMark id = network.nodeMark id := by
  rw [nodeMark, Network.node, nodes_startInterface,
    interface_startInterface_field network position Interface.node (fun _ _ _ _ _ _ => rfl)
      (fun _ _ _ => rfl) inside id]
  rfl

/-- The start of a visit changes the visited interface only. -/
theorem interface_startInterface_of_ne {id : InterfaceId} (different : id ≠ position) :
    (network.startInterface config position).interface id = network.interface id := by
  rw [interface_startInterface network position inside, Function.update_of_ne different]

/-- The visited interface sees its connection as the ends that come before it have left it. -/
theorem isVirtual_startInterface (linked : network.Linked) {id : ConnectionId}
    (below : id < network.connections.size) (isEnd : (network.connection id).HasEnd position) :
    ((network.startInterface config position).interface position).isVirtual =
      (network.nodeMark position || (network.connection id).isVirtual) := by
  rw [interface_startInterface network position inside, Function.update_self,
    Interface.isVirtual_started, Network.line, (linked.ends id below position isEnd).2]
  rfl

end Starts

/-- The start of a visit leaves the connections as they are. -/
theorem connection_startInterface (network : Network) (position : InterfaceId)
    (id : ConnectionId) :
    (network.startInterface config position).connection id = network.connection id := by
  rw [Network.connection, connections_startInterface, Network.connection]

theorem lineMark_startInterface (network : Network) (position : InterfaceId)
    (id : ConnectionId) :
    (network.startInterface config position).lineMark config id = network.lineMark config id := by
  rw [lineMark, connection_startInterface, lineMark]

/-- At the start of its visit an interface gets the marks of its node and its connection. -/
theorem Marked.startInterface (marked : network.Marked config position)
    (inside : position < network.interfaces.size) :
    (network.startInterface config position).Marked config (position + 1) where
  directed :=
    (ClassEffects.ClassStep.startInterface position).holds directed_tolerant marked.directed
  connections id below := by
    rw [connections_startInterface] at below
    rw [connection_startInterface, lineMark_startInterface, ownMark_startInterface inside,
      ownMark_startInterface inside]
    exact marked.connections id below
  sources id below earlier := by
    rw [connections_startInterface] at below
    rw [connection_startInterface] at earlier ⊢
    rw [nodeMark_startInterface inside, lineMark_startInterface, ownMark_startInterface inside]
    rcases Nat.lt_succ_iff_lt_or_eq.mp earlier with before | here
    · rw [interface_startInterface_of_ne inside (Nat.ne_of_lt before)]
      exact marked.sources id below before
    -- The target has not been visited, so its classes have not marked the connection.
    · have after : position ≤ (network.connection id).target := by
        rw [← here]
        exact Nat.le_of_lt (marked.directed.ascending id below)
      rw [here, isVirtual_startInterface inside marked.directed.linked below (.inl here),
        marked.connections id below, marked.ownMark_of_unvisited after, here, Bool.or_false,
        Bool.or_assoc]
  targets id below earlier := by
    rw [connections_startInterface] at below
    rw [connection_startInterface] at earlier ⊢
    rw [nodeMark_startInterface inside]
    rcases Nat.lt_succ_iff_lt_or_eq.mp earlier with before | here
    · rw [interface_startInterface_of_ne inside (Nat.ne_of_lt before)]
      exact marked.targets id below before
    · rw [here, isVirtual_startInterface inside marked.directed.linked below (.inr here)]
  unvisited id later := by
    rw [classes_startInterface inside]
    exact marked.unvisited id (Nat.le_of_succ_le later)

/-- What becomes of marks when a class, which may be virtual, acts on an interface. -/
structure Marks (config : Config) (position : InterfaceId) (isVirtual : Bool)
    (network next : Network) : Prop where
  size : next.connections.size = network.connections.size
  source : ∀ id, (next.connection id).source = (network.connection id).source
  target : ∀ id, (next.connection id).target = (network.connection id).target
  lineMark : ∀ id, next.lineMark config id = network.lineMark config id
  nodeMark : ∀ id, next.nodeMark id = network.nodeMark id
  others : ∀ id, id ≠ position → next.interface id = network.interface id
  own : next.ownMark config position = (network.ownMark config position || isVirtual)
  visited : (next.interface position).isVirtual =
    ((network.interface position).isVirtual || isVirtual)
  line : ∀ id < network.connections.size, (network.connection id).HasEnd position →
    (next.connection id).isVirtual = ((network.connection id).isVirtual || isVirtual)
  lines : ∀ id, ¬ (network.connection id).HasEnd position →
    (next.connection id).isVirtual = (network.connection id).isVirtual

/-- A class marks the interface that it acts on, and the connection of the interface. -/
theorem marks_of_interfaceActs (valid : config.validate = .ok ()) (linked : network.Linked)
    (inside : position < network.interfaces.size) {next : Network}
    (acts : ClassEffects.InterfaceActs config position network next) :
    ∃ isVirtual, Marks config position isVirtual network next := by
  have step := ClassEffects.ClassStep.interface position next inside acts
  obtain ⟨definition, listed, _, acted, widened⟩ := acts.interface inside
  have others (id : InterfaceId) (different : id ≠ position) :
      next.interface id = network.interface id := by
    rw [acted, Function.update_of_ne different]
  refine ⟨definition.isVirtual, ?_⟩
  constructor
  case size => exact congrArg Counts.connections step.counts
  case source => exact acts.connection_field fun _ _ _ => rfl
  case target => exact acts.connection_field fun _ _ _ => rfl
  case lineMark =>
    exact fun id => congrArg config.marksConnection (acts.connection_field (fun _ _ _ => rfl) id)
  case nodeMark =>
    intro id
    rw [nodeMark, Network.node, acts.nodes, nodeMark, Network.node]
    by_cases here : id = position
    · rw [here, acted, Function.update_self]
      rfl
    · rw [others id here]
  case others => exact others
  case own =>
    rw [ownMark, acted, Function.update_self]
    exact Config.marksInterface_append valid listed _
  case visited =>
    rw [acted, Function.update_self]
    rfl
  case line =>
    intro id below isEnd
    rw [widened, if_pos ⟨(linked.ends id below position isEnd).2, below⟩]
    rfl
  case lines =>
    intro id free
    rw [widened, if_neg fun found => free (linked.links position id found.1).2]

section Acts

variable {next : Network} {isVirtual : Bool} {id : ConnectionId}

/-- A visit leaves the own marks of the other interfaces as they are. -/
theorem Marks.ownMark (marks : Marks config position isVirtual network next) {id : InterfaceId}
    (different : id ≠ position) : next.ownMark config id = network.ownMark config id := by
  rw [Network.ownMark, marks.others id different, Network.ownMark]

/-- A class of an end marks the connection like its other classes do. -/
theorem Marked.connection_of_marks (marked : network.Marked config (position + 1))
    (marks : Marks config position isVirtual network next)
    (below : id < network.connections.size) :
    (next.connection id).isVirtual =
      (next.lineMark config id || next.ownMark config (next.connection id).source ||
        next.ownMark config (next.connection id).target) := by
  have ascending := marked.directed.ascending id below
  have connection := marked.connections id below
  rw [marks.source, marks.target, marks.lineMark]
  by_cases first : (network.connection id).source = position
  · have different : (network.connection id).target ≠ position :=
      first ▸ Nat.ne_of_gt ascending
    rw [marks.line id below (.inl first), connection, marks.ownMark different, first, marks.own]
    ac_rfl
  · by_cases second : (network.connection id).target = position
    · rw [marks.line id below (.inr second), connection, marks.ownMark first, second, marks.own]
      ac_rfl
    · rw [marks.lines id (not_or.mpr ⟨first, second⟩), marks.ownMark first, marks.ownMark second]
      exact connection

/-- A class of a source marks it. -/
theorem Marked.source_of_marks (marked : network.Marked config (position + 1))
    (marks : Marks config position isVirtual network next)
    (below : id < network.connections.size)
    (earlier : (network.connection id).source < position + 1) :
    (next.interface (network.connection id).source).isVirtual =
      (next.nodeMark (network.connection id).source || next.lineMark config id ||
        next.ownMark config (network.connection id).source) := by
  have known := marked.sources id below earlier
  rw [marks.nodeMark, marks.lineMark]
  by_cases first : (network.connection id).source = position
  · rw [first] at known ⊢
    rw [marks.visited, marks.own, known]
    ac_rfl
  · rw [marks.others _ first, marks.ownMark first]
    exact known

/-- A class of a target marks it together with its connection. -/
theorem Marked.target_of_marks (marked : network.Marked config (position + 1))
    (marks : Marks config position isVirtual network next)
    (below : id < network.connections.size)
    (earlier : (network.connection id).target < position + 1) :
    (next.interface (network.connection id).target).isVirtual =
      (next.nodeMark (network.connection id).target || (next.connection id).isVirtual) := by
  have ascending := marked.directed.ascending id below
  have known := marked.targets id below earlier
  rw [marks.nodeMark]
  by_cases second : (network.connection id).target = position
  · rw [marks.line id below (.inr second)]
    rw [second] at known ⊢
    rw [marks.visited, known]
    ac_rfl
  · have first : (network.connection id).source ≠ position :=
      Nat.ne_of_lt (Nat.lt_of_lt_of_le ascending (Nat.lt_succ_iff.mp earlier))
    rw [marks.others _ second, marks.lines id (not_or.mpr ⟨first, second⟩)]
    exact known

end Acts

/-- A class that acts on the visited interface marks the interface and its connection. -/
theorem Marked.interfaceActs (valid : config.validate = .ok ())
    (marked : network.Marked config (position + 1)) (inside : position < network.interfaces.size)
    {next : Network} (acts : ClassEffects.InterfaceActs config position network next) :
    next.Marked config (position + 1) := by
  obtain ⟨isVirtual, marks⟩ :=
    marks_of_interfaceActs valid marked.directed.linked inside acts
  constructor
  case directed =>
    exact (ClassEffects.ClassStep.interface position next inside acts).holds directed_tolerant
      marked.directed
  case connections =>
    intro id below
    exact marked.connection_of_marks marks (Nat.lt_of_lt_of_eq below marks.size)
  case sources =>
    intro id below earlier
    rw [marks.source] at earlier ⊢
    exact marked.source_of_marks marks (Nat.lt_of_lt_of_eq below marks.size) earlier
  case targets =>
    intro id below earlier
    rw [marks.target] at earlier ⊢
    exact marked.target_of_marks marks (Nat.lt_of_lt_of_eq below marks.size) earlier
  case unvisited =>
    intro id later
    rw [marks.others id (Nat.ne_of_gt later)]
    exact marked.unvisited id later

/-- A visit of the next interface in order. -/
theorem Marked.resolveInterface (valid : config.validate = .ok ())
    (marked : network.Marked config position) (inside : position < network.interfaces.size)
    {extra : List String} {next : Network}
    (run : (ClassEffects.resolveInterface config extra position).outcome network =
      (.ok (), next)) : next.Marked config (position + 1) := by
  have chain := ClassEffects.resolveInterface_acts run
  clear run
  suffices visited : next.interfaces.size = network.interfaces.size ∧
      next.Marked config (position + 1) from visited.2
  induction chain with
  | refl =>
    exact ⟨congrArg Counts.interfaces (ClassEffects.ClassStep.startInterface position).counts,
      marked.startInterface inside⟩
  | @tail current next _ last inductionHypothesis =>
    obtain ⟨size, acted⟩ := inductionHypothesis
    have below : position < current.interfaces.size := size.symm ▸ inside
    have counts := (ClassEffects.ClassStep.interface position next below last).counts
    exact ⟨(congrArg Counts.interfaces counts).trans size, acted.interfaceActs valid below last⟩

end Visits

end Network

namespace ClassEffects

open Network Stage

variable {config : Config} {network after : Network} (valid : config.validate = .ok ())

include valid

/-- The mark of a connection is that of its classes when no interface has been visited. -/
theorem resolveConnections_mark {extra : List String}
    (start : ∀ id, (network.connection id).isVirtual = network.lineMark config id)
    (run : (network.connectionIds.forM (resolveConnection config extra)).outcome network =
      (.ok (), after)) :
    ∀ id, (after.connection id).isVirtual = after.lineMark config id := by
  let steady (current : Network) : Prop :=
    current.counts = network.counts ∧
      ∀ id, (current.connection id).isVirtual = current.lineMark config id
  refine (outcome_forM_induction steady (fun id listed before next step known => ?_) run
    ⟨rfl, start⟩).2
  have chain := resolveConnection_acts step
  clear step
  induction chain with
  | refl =>
    refine ⟨(ClassStep.startConnection id).counts.trans known.1, fun other => ?_⟩
    let byClasses (connection : Connection) : Prop :=
      connection.isVirtual = config.marksConnection connection.classes
    have same : byClasses ((before.startConnection config id).connection other) =
        byClasses (before.connection other) := by
      refine connection_updateConnection_field before ?_ id other
      exact fun _ => rfl
    exact same.mpr (known.2 other)
  | @tail current next _ last inductionHypothesis =>
    obtain ⟨counts, marked⟩ := inductionHypothesis
    have inside : id < current.connections.size := Nat.lt_of_lt_of_eq (List.mem_range.mp listed)
      (congrArg Counts.connections counts).symm
    obtain ⟨definition, defined, _, acted⟩ := last.connection inside
    refine ⟨(ClassStep.connection id next inside last).counts.trans counts, fun other => ?_⟩
    rw [lineMark, acted]
    by_cases here : other = id
    · rw [here, Function.update_self]
      refine Eq.trans ?_ (Config.marksConnection_append valid defined _).symm
      exact congrArg (· || definition.isVirtual) (marked id)
    · rw [Function.update_of_ne here]
      exact marked other

end ClassEffects

namespace Network

open Stage

/-- No connection of a topology is virtual before classes act. -/
theorem unmarked_of_ofTopology {config : Config} {topology : Topology} {built : Network}
    (made : ofTopology config topology = .ok built) (id : ConnectionId) :
    (built.connection id).isVirtual = built.lineMark config id := by
  let unmarked (current : Network) : Prop := (current.connection id).isVirtual = false
  have holds : unmarked built := by
    refine ofTopology_induction made (fun _ => rfl) (fun network edge source target _ _ holds => ?_)
      fun network given nodes _ holds => ?_
    · refine (field_getD_push Connection.isVirtual ?_ id).trans holds
      rfl
    · unfold Network.addGroup
      dsimp only
      rw [foldl_updateNode]
      exact holds
  have classes : (built.connection id).classes = [] :=
    congrArg Prod.fst ((bare_of_ofTopology made).connections id)
  rw [lineMark, classes]
  exact holds

/-- Before interfaces are visited, connections have the marks of their own classes. -/
theorem marked_of_rounds {config : Config} {topology : Topology} {extra : ExtraClasses}
    {built nodes connections : Network} (valid : config.validate = .ok ())
    (made : ofTopology config topology = .ok built)
    (nodesRun : (built.nodeIds.forM (ClassEffects.resolveNode config extra.node)).outcome built =
      (.ok (), nodes))
    (connectionsRun : (nodes.connectionIds.forM
      (ClassEffects.resolveConnection config extra.connection)).outcome nodes =
        (.ok (), connections)) : connections.Marked config 0 := by
  have nodesDirected : nodes.Directed :=
    (within_forM fun id _ => ClassEffects.resolveNode_within directed_tolerant _ id).holds nodesRun
      (directed_of_ofTopology made)
  have directed : connections.Directed :=
    (within_forM fun id _ => ClassEffects.resolveConnection_within directed_tolerant _ id).holds
      connectionsRun nodesDirected
  obtain ⟨lines, ports⟩ :=
    ClassEffects.resolveNodes_others Interface.classes (fun _ _ => rfl) nodesRun
  obtain ⟨_, samePorts⟩ := ClassEffects.resolveConnections_others connectionsRun
  have byClasses := ClassEffects.resolveConnections_mark valid (fun id => by
    rw [lineMark, Network.connection, lines]
    exact unmarked_of_ofTopology made id) connectionsRun
  have unvisited (id : InterfaceId) : (connections.interface id).classes = [] := by
    rw [Network.interface, samePorts]
    exact (ports id).trans (congrArg Prod.fst ((bare_of_ofTopology made).interfaces id))
  refine ⟨directed, fun id _ => ?_, fun _ _ earlier => absurd earlier (Nat.not_lt_zero _),
    fun _ _ earlier => absurd earlier (Nat.not_lt_zero _), fun id _ => unvisited id⟩
  rw [byClasses, ownMark, unvisited, ownMark, unvisited]
  exact ((Bool.or_false _).trans (Bool.or_false _)).symm

/-- When all interfaces have been visited, the marks are known. -/
theorem Marked.virtualMarks {config : Config} {network : Network}
    (marked : network.Marked config network.interfaces.size) {id : ConnectionId}
    (inside : id < network.connections.size) : network.VirtualMarks config id where
  connection := marked.connections id inside
  source := marked.sources id inside (marked.directed.linked.ends id inside _ (.inl rfl)).1
  target := marked.targets id inside (marked.directed.linked.ends id inside _ (.inr rfl)).1

/-- The marks of a connection depend on the objects alone. -/
theorem VirtualMarks.congr {config : Config} {network after : Network} {id : ConnectionId}
    (marks : network.VirtualMarks config id) (same : sameObjects.holds network after) :
    after.VirtualMarks config id := by
  cases network
  cases after
  obtain ⟨nodes, interfaces, connections⟩ := same
  cases nodes
  cases interfaces
  cases connections
  exact ⟨marks.connection, marks.source, marks.target⟩

/-- The marks of every connection and of its two ends after all classes have acted: classes
of the target do not reach the source. -/
theorem virtualMarks_of_resolveClasses {config : Config} {topology : Topology}
    {extra : ExtraClasses} {built classified : Network} (valid : config.validate = .ok ())
    (made : ofTopology config topology = .ok built)
    (run : (ClassEffects.resolveClasses config extra).outcome built = (.ok (), classified)) :
    ∀ id < classified.connections.size, classified.VirtualMarks config id := by
  obtain ⟨nodes, connections, interfaces, nodesRun, connectionsRun, interfacesRun, same⟩ :=
    ClassEffects.resolveClasses_rounds run
  let visited (position : Nat) (current : Network) : Prop :=
    current.counts = connections.counts ∧ current.Marked config position
  obtain ⟨counts, marked⟩ : visited connections.interfaces.size interfaces := by
    refine outcome_forM_range visited (fun position inside before next step known => ?_)
      interfacesRun ⟨rfl, marked_of_rounds valid made nodesRun connectionsRun⟩
    have below : position < before.interfaces.size :=
      Nat.lt_of_lt_of_eq inside (congrArg Counts.interfaces known.1).symm
    exact ⟨((ClassEffects.resolveInterface_within counted_tolerant _ position).holds step).trans
      known.1, known.2.resolveInterface valid below step⟩
  have size : interfaces.interfaces.size = connections.interfaces.size :=
    congrArg Counts.interfaces counts
  rw [← size] at marked
  intro id inside
  have below : id < interfaces.connections.size :=
    Nat.lt_of_lt_of_eq inside (congrArg Array.size same.2.2)
  exact (marked.virtualMarks below).congr same

end Network

namespace Tunnel

open Network

/-- A virtual class of interfaces. -/
def config : Config where
  name := "tunnel"
  interfaceClasses := [{ name := "tap", isVirtual := true }, { name := "wire" }]

/-- An edge whose target is virtual. -/
def forward : Topology where
  nodes := [{ name := "a" }, { name := "b" }]
  edges := [{ source := "a", target := "b", sourceLabels := ["wire"], targetLabels := ["tap"] }]

/-- The same edge with its ends, and their labels, swapped. -/
def backward : Topology where
  nodes := [{ name := "a" }, { name := "b" }]
  edges := [{ source := "b", target := "a", sourceLabels := ["tap"], targetLabels := ["wire"] }]

/-- The network of a topology. -/
def built (topology : Topology) : Network := (ofTopology config topology).toOption.getD {}

/-- The network of a topology after its classes have acted. -/
def classified (topology : Topology) : Network :=
  ((ClassEffects.resolveClasses config {}).outcome (built topology)).2

theorem config_valid : config.validate = .ok () := by decide +kernel

theorem built_of_forward : ofTopology config forward = .ok (built forward) :=
  Outcome.eq_ok_of_isOk {} (by decide +kernel)

theorem built_of_backward : ofTopology config backward = .ok (built backward) :=
  Outcome.eq_ok_of_isOk {} (by decide +kernel)

theorem classified_of_forward : (ClassEffects.resolveClasses config {}).outcome (built forward) =
    (.ok (), classified forward) :=
  Stage.outcome_eq_ok (by decide +kernel)

theorem classified_of_backward : (ClassEffects.resolveClasses config {}).outcome (built backward) =
    (.ok (), classified backward) :=
  Stage.outcome_eq_ok (by decide +kernel)

/-- The class of the target marks the connection and the target. -/
theorem forward_marks :
    config.validate = .ok () ∧ ofTopology config forward = .ok (built forward) ∧
      (ClassEffects.resolveClasses config {}).outcome (built forward) =
        (.ok (), classified forward) ∧
      ((classified forward).connection 0).isVirtual = true ∧
      ((classified forward).interface ((classified forward).connection 0).target).isVirtual =
        true := by
  have marks := virtualMarks_of_resolveClasses config_valid built_of_forward classified_of_forward 0
    (by decide +kernel)
  refine ⟨config_valid, built_of_forward, classified_of_forward, ?_, ?_⟩
  · exact marks.connection.trans (by decide +kernel)
  · exact marks.target.trans (by decide +kernel)

/-- A virtual connection may have a source that is not virtual, and the interface of the same
node is virtual when the ends of the edge are swapped. -/
theorem source_unmarked :
    config.validate = .ok () ∧ ofTopology config forward = .ok (built forward) ∧
      (ClassEffects.resolveClasses config {}).outcome (built forward) =
        (.ok (), classified forward) ∧
      ofTopology config backward = .ok (built backward) ∧
      (ClassEffects.resolveClasses config {}).outcome (built backward) =
        (.ok (), classified backward) ∧
      ((classified forward).connection 0).isVirtual = true ∧
      ((classified forward).connection 0).source = 0 ∧
      ((classified forward).interface 0).isVirtual = false ∧
      ((classified forward).interface 0).node = ((classified backward).interface 1).node ∧
      ((classified backward).interface 1).isVirtual = true := by
  refine ⟨config_valid, built_of_forward, classified_of_forward, built_of_backward,
    classified_of_backward, ?_⟩
  decide +kernel

end Tunnel

end TopoPlan
