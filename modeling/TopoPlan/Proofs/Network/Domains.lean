import Mathlib.Data.List.Perm.Subperm
import Mathlib.Logic.Relation
import TopoPlan.Network.Segments
import TopoPlan.Proofs.Network.Links

/-!
# Broadcast domains

The segments of a layer are described without the search that finds them: two
connections are in one segment exactly when a chain of bridges joins them.
`BroadcastDomains` says so, and `domains_of_resolve` is the main statement.  The
search is followed by one invariant for a segment, `Exploring`, and one for the
segments so far, `Found`.
-/

namespace TopoPlan.Segments

open Network

section Description

variable (network : Network) (layer : Layer)

/-- A connection of the network that takes part in the layer. -/
def Participates (id : ConnectionId) : Prop :=
  id < network.connections.size ∧ takesPart network layer id = true

/-- Two connections have two different interfaces on a common node that both do not
know the layer. -/
def Bridged (left right : ConnectionId) : Prop :=
  ∃ first second, (network.connection left).HasEnd first ∧
    (network.connection right).HasEnd second ∧ first ≠ second ∧
    (network.interface first).node = (network.interface second).node ∧
    knowsLayer network layer first = false ∧ knowsLayer network layer second = false

/-- One link of a chain: two bridged connections that both take part. -/
def BridgeStep (left right : ConnectionId) : Prop :=
  Participates network layer left ∧ Participates network layer right ∧
    Bridged network layer left right

/-- A chain of connections that take part, each bridged with the next one. -/
def Joined : ConnectionId → ConnectionId → Prop :=
  Relation.ReflTransGen (BridgeStep network layer)

/-- The interfaces at the ends of some connections that know the layer. -/
def AwareEnd (connections : List ConnectionId) (port : InterfaceId) : Prop :=
  knowsLayer network layer port = true ∧
    ∃ id ∈ connections, (network.connection id).HasEnd port

/-- Segments are the broadcast domains of a layer, in the order of their smallest
connections, which they list first. -/
structure BroadcastDomains (segments : List Segment) : Prop where
  participating : ∀ id, id ∈ segments.flatMap (·.connections) ↔ Participates network layer id
  once : (segments.flatMap (·.connections)).Nodup
  joined : ∀ left right, Participates network layer left → Participates network layer right →
    ((∃ segment ∈ segments, left ∈ segment.connections ∧ right ∈ segment.connections) ↔
      Joined network layer left right)
  interfaces : ∀ segment ∈ segments, segment.interfaces.Nodup ∧
    ∀ port, port ∈ segment.interfaces ↔ AwareEnd network layer segment.connections port
  smallestFirst : ∀ segment ∈ segments, ∃ first rest, segment.connections = first :: rest ∧
    ∀ other ∈ rest, first < other
  increasing : segments.Pairwise fun earlier later =>
    ∀ left ∈ earlier.connections.head?, ∀ right ∈ later.connections.head?, left < right

end Description

variable {network : Network} {layer : Layer}

/-- Only connections of the network take part. -/
theorem participates_of_takesPart {id : ConnectionId} (takes : takesPart network layer id = true) :
    Participates network layer id := by
  refine ⟨Nat.lt_of_not_le ?_, takes⟩
  intro outside
  rw [takesPart, connection, getD_of_size_le outside] at takes
  exact absurd takes (by simp [default, instInhabitedConnection.default])

/-- Bridges lead both ways. -/
theorem BridgeStep.symm {left right : ConnectionId} (step : BridgeStep network layer left right) :
    BridgeStep network layer right left := by
  obtain ⟨leftTakes, rightTakes, first, second, leftEnd, rightEnd, different, node, firstUnaware,
    secondUnaware⟩ := step
  exact ⟨rightTakes, leftTakes, second, first, rightEnd, leftEnd, different.symm, node.symm,
    secondUnaware, firstUnaware⟩

/-- Joined connections are joined both ways. -/
theorem Joined.symm {left right : ConnectionId} (joined : Joined network layer left right) :
    Joined network layer right left := by
  induction joined with
  | refl => exact .refl
  | tail _ step inductionHypothesis => exact .head step.symm inductionHypothesis

/-- A set of connections that is closed under single links is closed under chains. -/
theorem Joined.mem_of_closed {connections : List ConnectionId}
    (closed : ∀ left ∈ connections, ∀ right, BridgeStep network layer left right → right ∈ connections)
    {left right : ConnectionId} (joined : Joined network layer left right)
    (start : left ∈ connections) : right ∈ connections := by
  induction joined with
  | refl => exact start
  | tail _ step inductionHypothesis => exact closed _ inductionHypothesis _ step

/-- The connection at a port, if it takes part, has been reached. -/
def Crossed (network : Network) (layer : Layer) (search : Search) (port : InterfaceId) : Prop :=
  ∀ id, (network.interface port).connection = some id → takesPart network layer id = true →
    id ∈ search.reached

/-- An interface has been looked at: it is in the segment, or all ports that bridge
with it have been crossed. -/
def Settled (network : Network) (layer : Layer) (search : Search) (port : InterfaceId) : Prop :=
  (knowsLayer network layer port = true ∧ port ∈ search.interfaces) ∨
    (knowsLayer network layer port = false ∧
      ∀ other ∈ bridgedPorts network layer port, Crossed network layer search other)

/-- What holds while the segment of `start` is searched, after the connections
`before` and with so many steps left.  Ends of connections are awaited, pending
or settled. -/
structure Exploring (network : Network) (layer : Layer) (before : List ConnectionId)
    (start : ConnectionId) (steps : Nat) (awaited : List InterfaceId) (search : Search) : Prop where
  reached : ∀ id, id ∈ search.reached ↔ id ∈ before ∨ id ∈ search.connections
  fresh : ∀ id ∈ search.connections, id ∉ before
  once : search.connections.Nodup
  first : search.connections.head? = some start
  participates : ∀ id ∈ search.connections, Participates network layer id
  joined : ∀ id ∈ search.connections, Joined network layer start id
  interfacesOnce : search.interfaces.Nodup
  aware : ∀ port ∈ search.interfaces, AwareEnd network layer search.connections port
  pending : ∀ port ∈ search.pending, ∃ id ∈ search.connections,
    (network.connection id).HasEnd port
  ends : ∀ id ∈ search.connections, ∀ port, (network.connection id).HasEnd port →
    port ∈ awaited ∨ port ∈ search.pending ∨ Settled network layer search port
  enough : search.pending.length + network.connections.size ≤ steps + search.connections.length

/-- A port whose connection takes part and is new gives that connection to the segment
and its other end to look at; any other port changes nothing. -/
theorem crossPort_cases (search : Search) (port : InterfaceId) :
    (crossPort network layer search port = search ∧ Crossed network layer search port) ∨
      ∃ found, (network.interface port).connection = some found ∧
        Participates network layer found ∧ found ∉ search.reached ∧
        crossPort network layer search port =
          { search with
            reached := found :: search.reached
            connections := search.connections ++ [found]
            pending := (network.opposite? port).toList ++ search.pending } := by
  unfold crossPort
  split
  case h_1 free => exact .inl ⟨rfl, fun id link => nomatch free.symm.trans link⟩
  case h_2 found link =>
    split
    case isTrue known =>
      refine .inl ⟨rfl, ?_⟩
      intro id same takes
      cases link.symm.trans same
      simpa [takes] using known
    case isFalse new =>
      simp only [Bool.or_eq_true, Bool.not_eq_true', List.contains_eq_mem, decide_eq_true_eq,
        not_or, Bool.not_eq_false] at new
      exact .inr ⟨found, link, participates_of_takesPart new.1, new.2, rfl⟩

/-- An end of the connection at a port is the port or the opposite one. -/
theorem eq_or_opposite {port other : InterfaceId} {id : ConnectionId}
    (link : (network.interface port).connection = some id)
    (portEnd : (network.connection id).HasEnd port)
    (otherEnd : (network.connection id).HasEnd other) :
    other = port ∨ network.opposite? port = some other := by
  unfold opposite? Connection.otherEnd?
  rw [link]
  change _ ∨ (if _ then _ else _) = _
  rcases portEnd with source | target
  · rcases otherEnd with rfl | rfl
    · exact .inl source
    · exact .inr (if_pos source)
  · rcases otherEnd with rfl | rfl
    · by_cases same : (network.connection id).source = port
      · exact .inl same
      · exact .inr ((if_neg same).trans (if_pos target))
    · exact .inl target

/-- The opposite of a port is an end of its connection. -/
theorem hasEnd_of_opposite {port other : InterfaceId} {id : ConnectionId}
    (link : (network.interface port).connection = some id)
    (opposite : network.opposite? port = some other) : (network.connection id).HasEnd other := by
  unfold opposite? Connection.otherEnd? at opposite
  rw [link] at opposite
  change (if _ then _ else _) = _ at opposite
  split at opposite
  · exact .inr (Option.some.inj opposite)
  · split at opposite
    · exact .inl (Option.some.inj opposite)
    · cases opposite

/-- The ports that bridge with an interface. -/
theorem mem_bridgedPorts {entry port : InterfaceId} :
    port ∈ bridgedPorts network layer entry ↔
      port ∈ (network.node (network.interface entry).node).interfaces ∧ port ≠ entry ∧
        knowsLayer network layer port = false := by
  simp [bridgedPorts]

/-- An interface remains settled while more is reached. -/
theorem Settled.mono {earlier later : Search} {port : InterfaceId}
    (settled : Settled network layer earlier port)
    (reached : ∀ id ∈ earlier.reached, id ∈ later.reached)
    (interfaces : ∀ id ∈ earlier.interfaces, id ∈ later.interfaces) :
    Settled network layer later port := by
  rcases settled with ⟨knows, listed⟩ | ⟨unaware, crossed⟩
  · exact .inl ⟨knows, interfaces port listed⟩
  · exact .inr ⟨unaware, fun other bridged id link takes =>
      reached id (crossed other bridged id link takes)⟩

section Exploration

variable {before : List ConnectionId} {start : ConnectionId} {steps : Nat}
  {awaited : List InterfaceId} {search : Search}

/-- A connection that is bridged with one of the segment joins it; the ends that it
brings are awaited or pending. -/
theorem Exploring.extend (exploring : Exploring network layer before start steps awaited search)
    {id found : ConnectionId} (member : id ∈ search.connections)
    (step : BridgeStep network layer id found) (new : found ∉ search.reached)
    {more : List InterfaceId} (few : more.length ≤ 1)
    (moreEnds : ∀ port ∈ more, (network.connection found).HasEnd port)
    (brings : ∀ port, (network.connection found).HasEnd port → port ∈ awaited ∨ port ∈ more) :
    Exploring network layer before start steps awaited
      { search with
        reached := found :: search.reached
        connections := search.connections ++ [found]
        pending := more ++ search.pending } where
  reached other := by
    rw [List.mem_cons, List.mem_append, List.mem_singleton, exploring.reached]
    constructor
    · rintro (same | old | old)
      · exact .inr (.inr same)
      · exact .inl old
      · exact .inr (.inl old)
    · rintro (old | old | same)
      · exact .inr (.inl old)
      · exact .inr (.inr old)
      · exact .inl same
  fresh := by
    refine List.forall_mem_append.mpr ⟨exploring.fresh, List.forall_mem_singleton.mpr ?_⟩
    intro old
    exact new ((exploring.reached found).mpr (.inl old))
  once := by
    refine List.nodup_append.mpr ⟨exploring.once, List.pairwise_singleton _ found, ?_⟩
    rintro other listed last single rfl
    rw [List.mem_singleton.mp single] at listed
    exact new ((exploring.reached found).mpr (.inr listed))
  first := by
    rw [List.head?_append, exploring.first]
    rfl
  participates := by
    refine List.forall_mem_append.mpr ⟨exploring.participates, ?_⟩
    exact List.forall_mem_singleton.mpr step.2.1
  joined := by
    refine List.forall_mem_append.mpr ⟨exploring.joined, ?_⟩
    exact List.forall_mem_singleton.mpr ((exploring.joined id member).tail step)
  interfacesOnce := exploring.interfacesOnce
  aware port listed := by
    obtain ⟨knows, other, old, isEnd⟩ := exploring.aware port listed
    exact ⟨knows, other, List.mem_append_left _ old, isEnd⟩
  pending := by
    refine List.forall_mem_append.mpr ⟨?_, ?_⟩
    · intro port added
      exact ⟨found, List.mem_append_right _ (List.mem_singleton_self _), moreEnds port added⟩
    · intro port old
      obtain ⟨other, old, isEnd⟩ := exploring.pending port old
      exact ⟨other, List.mem_append_left _ old, isEnd⟩
  ends := by
    refine List.forall_mem_append.mpr ⟨?_, List.forall_mem_singleton.mpr ?_⟩
    · intro other old port isEnd
      rcases exploring.ends other old port isEnd with waits | waits | settled
      · exact .inl waits
      · exact .inr (.inl (List.mem_append_right _ waits))
      · exact .inr (.inr (settled.mono (fun _ => List.mem_cons_of_mem _) fun _ listed => listed))
    · intro port isEnd
      rcases brings port isEnd with waits | waits
      · exact .inl waits
      · exact .inr (.inl (List.mem_append_left _ waits))
  enough := by
    have enough := exploring.enough
    rw [List.length_append, List.length_append, List.length_singleton]
    omega

/-- Crossing an awaited port that bridges with an end of the segment. -/
theorem Exploring.crossPort (linked : network.Linked)
    (exploring : Exploring network layer before start steps awaited search)
    {id : ConnectionId} (member : id ∈ search.connections) {entry port : InterfaceId}
    (entryEnd : (network.connection id).HasEnd entry)
    (unaware : knowsLayer network layer entry = false)
    (bridged : port ∈ bridgedPorts network layer entry) (waits : port ∈ awaited) :
    Exploring network layer before start steps awaited
      (Segments.crossPort network layer search port) := by
  rcases crossPort_cases search port with ⟨same, _⟩ | ⟨found, link, takes, new, same⟩
  · rw [same]
    exact exploring
  rw [same]
  obtain ⟨listed, different, portUnaware⟩ := mem_bridgedPorts.mp bridged
  have portEnd := (linked.links port found link).2
  have step : BridgeStep network layer id found :=
    ⟨exploring.participates id member, takes, entry, port, entryEnd, portEnd, different.symm,
      (linked.onNode _ _ listed).2.symm, unaware, portUnaware⟩
  refine exploring.extend member step new ?_ ?_ ?_
  · cases network.opposite? port <;> simp
  · intro other opposite
    exact hasEnd_of_opposite link (Option.mem_toList.mp opposite)
  · intro other otherEnd
    rcases eq_or_opposite link portEnd otherEnd with rfl | opposite
    · exact .inl waits
    · exact .inr (Option.mem_toList.mpr opposite)

variable (network layer) in
/-- Nothing is lost when a port is crossed, and its connection is reached. -/
theorem crossPort_grows (search : Search) (port : InterfaceId) :
    (∀ id ∈ search.reached, id ∈ (Segments.crossPort network layer search port).reached) ∧
      (∀ id ∈ search.connections,
        id ∈ (Segments.crossPort network layer search port).connections) ∧
      Crossed network layer (Segments.crossPort network layer search port) port := by
  rcases crossPort_cases search port with ⟨same, crossed⟩ | ⟨found, link, _, _, same⟩
  · rw [same]
    exact ⟨fun _ old => old, fun _ old => old, crossed⟩
  · rw [same]
    refine ⟨fun _ => List.mem_cons_of_mem _, fun _ => List.mem_append_left _, ?_⟩
    intro id other _
    cases link.symm.trans other
    exact List.mem_cons_self

/-- Crossing awaited ports that bridge with an end of the segment reaches all their
connections. -/
theorem Exploring.crossAll (linked : network.Linked) {ports : List InterfaceId}
    (exploring : Exploring network layer before start steps awaited search)
    {id : ConnectionId} (member : id ∈ search.connections) {entry : InterfaceId}
    (entryEnd : (network.connection id).HasEnd entry)
    (unaware : knowsLayer network layer entry = false)
    (bridged : ∀ port ∈ ports, port ∈ bridgedPorts network layer entry)
    (wait : ∀ port ∈ ports, port ∈ awaited) :
    let final := ports.foldl (Segments.crossPort network layer) search
    Exploring network layer before start steps awaited final ∧ id ∈ final.connections ∧
      (∀ other ∈ search.reached, other ∈ final.reached) ∧
      ∀ port ∈ ports, Crossed network layer final port := by
  induction ports generalizing search with
  | nil => exact ⟨exploring, member, fun _ old => old, List.forall_mem_nil _⟩
  | cons port rest inductionHypothesis =>
    obtain ⟨firstBridged, restBridged⟩ := List.forall_mem_cons.mp bridged
    obtain ⟨firstWaits, restWait⟩ := List.forall_mem_cons.mp wait
    obtain ⟨reached, connections, crossed⟩ := crossPort_grows network layer search port
    obtain ⟨final, still, kept, others⟩ := inductionHypothesis
      (exploring.crossPort linked member entryEnd unaware firstBridged firstWaits)
      (connections id member) restBridged restWait
    refine ⟨final, still, fun other old => kept other (reached other old), ?_⟩
    refine List.forall_mem_cons.mpr ⟨?_, others⟩
    intro other link takes
    exact kept other (crossed other link takes)

/-- A pending interface is taken up: it is settled, or awaited from now on. -/
theorem Exploring.take (exploring : Exploring network layer before start (steps + 1) [] search)
    {entry : InterfaceId} {rest interfaces : List InterfaceId}
    (pending : search.pending = entry :: rest) (once : interfaces.Nodup)
    (aware : ∀ port ∈ interfaces, AwareEnd network layer search.connections port)
    (more : ∀ port ∈ search.interfaces, port ∈ interfaces)
    (taken : entry ∈ awaited ∨
      Settled network layer { search with pending := rest, interfaces := interfaces } entry) :
    Exploring network layer before start steps awaited
      { search with pending := rest, interfaces := interfaces } where
  reached := exploring.reached
  fresh := exploring.fresh
  once := exploring.once
  first := exploring.first
  participates := exploring.participates
  joined := exploring.joined
  interfacesOnce := once
  aware := aware
  pending port listed := by
    apply exploring.pending port
    rw [pending]
    exact List.mem_cons_of_mem _ listed
  ends id member port isEnd := by
    rcases exploring.ends id member port isEnd with none | waits | settled
    · cases none
    · rw [pending] at waits
      rcases List.mem_cons.mp waits with rfl | waits
      · exact taken.imp_right .inr
      · exact .inr (.inl waits)
    · exact .inr (.inr (settled.mono (fun _ old => old) more))
  enough := by
    have enough := exploring.enough
    rw [pending, List.length_cons] at enough
    dsimp only
    omega

/-- Nothing is awaited any more when all that was awaited is settled. -/
theorem Exploring.settle (exploring : Exploring network layer before start steps awaited search)
    (settled : ∀ port ∈ awaited, Settled network layer search port) :
    Exploring network layer before start steps [] search :=
  { exploring with
    ends := fun id member port isEnd => by
      rcases exploring.ends id member port isEnd with waits | rest
      · exact .inr (.inr (settled port waits))
      · exact .inr rest }

/-- When an end of a connection that was reached is settled by crossing, so are the
ports that bridge with it: each of them bridges with that end and with the others. -/
theorem Settled.bridged (linked : network.Linked) {id : ConnectionId}
    (reached : id ∈ search.reached) {entry port : InterfaceId}
    (inside : id < network.connections.size) (entryEnd : (network.connection id).HasEnd entry)
    (crossed : ∀ other ∈ bridgedPorts network layer entry, Crossed network layer search other)
    (bridged : port ∈ bridgedPorts network layer entry) :
    Settled network layer search port := by
  obtain ⟨listed, _, unaware⟩ := mem_bridgedPorts.mp bridged
  refine .inr ⟨unaware, ?_⟩
  intro other between
  obtain ⟨otherListed, _, otherUnaware⟩ := mem_bridgedPorts.mp between
  by_cases same : other = entry
  · intro found link _
    rw [same, (linked.ends id inside entry entryEnd).2] at link
    cases link
    exact reached
  · rw [(linked.onNode _ _ listed).2] at otherListed
    exact crossed other (mem_bridgedPorts.mpr ⟨otherListed, same, otherUnaware⟩)

/-- Looking at a pending interface. -/
theorem Exploring.lookAt (linked : network.Linked)
    (exploring : Exploring network layer before start (steps + 1) [] search)
    {entry : InterfaceId} {rest : List InterfaceId} (pending : search.pending = entry :: rest) :
    Exploring network layer before start steps []
      (Segments.lookAt network layer { search with pending := rest } entry) := by
  obtain ⟨id, member, entryEnd⟩ : ∃ id ∈ search.connections,
      (network.connection id).HasEnd entry := by
    apply exploring.pending
    rw [pending]
    exact List.mem_cons_self
  unfold Segments.lookAt
  split
  case isTrue knows =>
    split
    case isTrue listed =>
      refine exploring.take pending exploring.interfacesOnce exploring.aware
        (fun _ old => old) (.inr (.inl ⟨knows, ?_⟩))
      exact List.contains_iff_mem.mp listed
    case isFalse new =>
      rw [List.contains_iff_mem] at new
      refine exploring.take pending ?_ ?_ (fun _ => List.mem_append_left _)
        (.inr (.inl ⟨knows, List.mem_append_right _ (List.mem_singleton_self _)⟩))
      · refine List.nodup_append.mpr
          ⟨exploring.interfacesOnce, List.pairwise_singleton _ entry, ?_⟩
        rintro other listed last single rfl
        rw [List.mem_singleton.mp single] at listed
        exact new listed
      · refine List.forall_mem_append.mpr ⟨exploring.aware, ?_⟩
        exact List.forall_mem_singleton.mpr ⟨knows, id, member, entryEnd⟩
  case isFalse unknown =>
    have unaware : knowsLayer network layer entry = false := Bool.not_eq_true _ ▸ unknown
    let ports := bridgedPorts network layer entry
    have taken : Exploring network layer before start steps (entry :: ports)
        { search with pending := rest } :=
      exploring.take pending exploring.interfacesOnce exploring.aware (fun _ old => old)
        (.inl List.mem_cons_self)
    obtain ⟨final, still, _, crossed⟩ := taken.crossAll linked member entryEnd unaware
      (fun _ listed => listed) (fun _ => List.mem_cons_of_mem entry)
    refine final.settle (List.forall_mem_cons.mpr ⟨.inr ⟨unaware, crossed⟩, ?_⟩)
    intro port bridged
    have reached := (final.reached id).mpr (.inr still)
    exact .bridged linked reached (final.participates id still).1 entryEnd crossed bridged

/-- A list without duplicates of connections that take part is no longer than the
list of all connections. -/
theorem length_le_of_participates {connections : List ConnectionId} (once : connections.Nodup)
    (participates : ∀ id ∈ connections, Participates network layer id) :
    connections.length ≤ network.connections.size := by
  have subset : connections ⊆ List.range network.connections.size :=
    fun id listed => List.mem_range.mpr (participates id listed).1
  have bound := (List.subperm_of_subset once subset).length_le
  rwa [List.length_range] at bound

/-- The search ends with nothing pending. -/
theorem Exploring.explore (linked : network.Linked)
    (exploring : Exploring network layer before start steps [] search) :
    let final := Segments.explore network layer steps search
    final.pending = [] ∧ ∃ left, Exploring network layer before start left [] final := by
  induction steps generalizing search with
  | zero =>
    have bound := length_le_of_participates exploring.once exploring.participates
    have enough := exploring.enough
    refine ⟨List.eq_nil_of_length_eq_zero ?_, 0, exploring⟩
    rw [Segments.explore]
    omega
  | succ steps inductionHypothesis =>
    unfold Segments.explore
    split
    case h_1 pending => exact ⟨pending, steps + 1, exploring⟩
    case h_2 entry rest pending => exact inductionHypothesis (exploring.lookAt linked pending)

end Exploration

/-- A segment holds the connections joined with its first one, and the ends of these
that know the layer. -/
structure Domain (network : Network) (layer : Layer) (first : ConnectionId)
    (connections : List ConnectionId) (interfaces : List InterfaceId) : Prop where
  head : connections.head? = some first
  once : connections.Nodup
  joined : ∀ id, id ∈ connections ↔ Joined network layer first id
  interfacesOnce : interfaces.Nodup
  aware : ∀ port, port ∈ interfaces ↔ AwareEnd network layer connections port

section Search

variable {before : List ConnectionId} {first : ConnectionId}

/-- The search for a segment starts with both ends of a new connection pending. -/
theorem exploring_first (participates : Participates network layer first)
    (fresh : first ∉ before) :
    Exploring network layer before first (network.connections.size + 2) []
      { reached := first :: before
        connections := [first]
        pending := [(network.connection first).source, (network.connection first).target] } where
  reached id := by
    rw [List.mem_cons, List.mem_singleton, or_comm]
  fresh id listed := by
    rw [List.mem_singleton.mp listed]
    exact fresh
  once := List.pairwise_singleton _ first
  first := rfl
  participates id listed := by
    rw [List.mem_singleton.mp listed]
    exact participates
  joined id listed := by
    rw [List.mem_singleton.mp listed]
    exact .refl
  interfacesOnce := List.nodup_nil
  aware := List.forall_mem_nil _
  pending port listed := by
    refine ⟨first, List.mem_singleton_self first, ?_⟩
    rcases List.mem_cons.mp listed with same | listed
    · exact .inl same.symm
    · exact .inr (List.mem_singleton.mp listed).symm
  ends id listed port isEnd := by
    rw [List.mem_singleton.mp listed] at isEnd
    rcases isEnd with rfl | rfl
    · exact .inr (.inl List.mem_cons_self)
    · exact .inr (.inl (List.mem_cons_of_mem _ (List.mem_singleton_self _)))
  enough := by
    simp only [List.length_cons, List.length_nil]
    omega

/-- With nothing pending, a segment has all connections bridged with its own, unless
earlier segments are not closed. -/
theorem Exploring.closed (linked : network.Linked) {steps : Nat} {search : Search}
    (exploring : Exploring network layer before first steps [] search)
    (pending : search.pending = [])
    (earlier : ∀ left ∈ before, ∀ right, BridgeStep network layer left right → right ∈ before) :
    ∀ left ∈ search.connections, ∀ right, BridgeStep network layer left right →
      right ∈ search.connections := by
  intro left member right step
  have back := step.symm
  obtain ⟨_, rightTakes, entry, port, leftEnd, rightEnd, different, node, unaware,
    portUnaware⟩ := step
  have settled : Settled network layer search entry := by
    rcases exploring.ends left member entry leftEnd with none | waits | settled
    · cases none
    · rw [pending] at waits
      cases waits
    · exact settled
  rcases settled with ⟨knows, _⟩ | ⟨_, crossed⟩
  · cases unaware.symm.trans knows
  obtain ⟨inside, link⟩ := linked.ends right rightTakes.1 port rightEnd
  have listed := linked.listed port inside
  rw [← node] at listed
  have bridged : port ∈ bridgedPorts network layer entry :=
    mem_bridgedPorts.mpr ⟨listed, different.symm, portUnaware⟩
  rcases (exploring.reached right).mp (crossed port bridged right link rightTakes.2) with old | own
  · exact absurd (earlier right old left back) (exploring.fresh left member)
  · exact own

/-- The search finds the domain of its first connection and reaches nothing else. -/
theorem searchFrom_domain (linked : network.Linked)
    (participates : Participates network layer first) (fresh : first ∉ before)
    (earlier : ∀ left ∈ before, ∀ right, BridgeStep network layer left right → right ∈ before) :
    let final := searchFrom network layer before first
    Domain network layer first final.connections final.interfaces ∧
      (∀ id, id ∈ final.reached ↔ id ∈ before ∨ id ∈ final.connections) ∧
      ∀ id ∈ final.connections, id ∉ before := by
  obtain ⟨pending, _, exploring⟩ := (exploring_first participates fresh).explore linked
  have closed := exploring.closed linked pending earlier
  refine ⟨⟨exploring.first, exploring.once, fun id => ⟨exploring.joined id, fun joined => ?_⟩,
    exploring.interfacesOnce, fun port => ⟨exploring.aware port, ?_⟩⟩, exploring.reached,
    exploring.fresh⟩
  · exact joined.mem_of_closed closed (List.mem_of_head? exploring.first)
  · rintro ⟨knows, id, member, isEnd⟩
    rcases exploring.ends id member port isEnd with none | waits | ⟨_, listed⟩ | ⟨unaware, _⟩
    · cases none
    · rw [pending] at waits
      cases waits
    · exact listed
    · cases unaware.symm.trans knows

end Search

/-- What holds when the segments of the first so many connections have been found. -/
structure Found (network : Network) (layer : Layer) (count : Nat)
    (state : List ConnectionId × List Segment) : Prop where
  reached : ∀ id, id ∈ state.1 ↔ id ∈ state.2.flatMap (·.connections)
  covered : ∀ id, id < count → takesPart network layer id = true → id ∈ state.1
  domains : ∀ segment ∈ state.2, ∃ first, first < count ∧ Participates network layer first ∧
    Domain network layer first segment.connections segment.interfaces ∧
    ∀ other ∈ segment.connections, first ≤ other
  once : (state.2.flatMap (·.connections)).Nodup
  increasing : state.2.Pairwise fun earlier later =>
    ∀ left ∈ earlier.connections.head?, ∀ right ∈ later.connections.head?, left < right

section Fold

variable {count : Nat} {state : List ConnectionId × List Segment}

/-- What was reached is closed under bridges. -/
theorem Found.closed (found : Found network layer count state) :
    ∀ left ∈ state.1, ∀ right, BridgeStep network layer left right → right ∈ state.1 := by
  intro left reached right step
  obtain ⟨segment, listed, member⟩ := List.mem_flatMap.mp ((found.reached left).mp reached)
  obtain ⟨first, _, _, domain, _⟩ := found.domains segment listed
  have joined := ((domain.joined left).mp member).tail step
  exact (found.reached right).mpr
    (List.mem_flatMap.mpr ⟨segment, listed, (domain.joined right).mpr joined⟩)

/-- Every connection of a domain takes part. -/
theorem Joined.participates {first id : ConnectionId} (joined : Joined network layer first id)
    (participates : Participates network layer first) : Participates network layer id := by
  cases joined with
  | refl => exact participates
  | tail _ step => exact step.2.1

/-- A connection that is part of a segment, or takes no part, adds nothing. -/
theorem Found.skip (found : Found network layer count state)
    (known : takesPart network layer count = true → count ∈ state.1) :
    Found network layer (count + 1) state :=
  { found with
    covered := fun id below takes => by
      rcases Nat.lt_succ_iff_lt_or_eq.mp below with below | last
      · exact found.covered id below takes
      · rw [last] at takes ⊢
        exact known takes
    domains := fun segment listed => by
      obtain ⟨first, below, rest⟩ := found.domains segment listed
      exact ⟨first, Nat.lt_succ_of_lt below, rest⟩ }

/-- A connection that no segment has reached starts one. -/
theorem Found.start (linked : network.Linked) (found : Found network layer count state)
    (takes : takesPart network layer count = true) (fresh : count ∉ state.1) (name : String) :
    let search := searchFrom network layer state.1 count
    Found network layer (count + 1) (search.reached, state.2 ++
      [{ name, layer := layer.name, interfaces := search.interfaces,
         connections := search.connections }]) := by
  intro search
  have participates := participates_of_takesPart takes
  obtain ⟨domain, reached, new⟩ := searchFrom_domain linked participates fresh found.closed
  have listed : ∀ id, id ∈ search.reached ↔
      id ∈ state.2.flatMap (·.connections) ∨ id ∈ search.connections := by
    intro id
    rw [reached, found.reached]
  constructor
  case reached =>
    intro id
    rw [listed, List.flatMap_append, List.mem_append, List.flatMap_singleton]
  case covered =>
    intro id below takes
    rw [reached]
    rcases Nat.lt_succ_iff_lt_or_eq.mp below with below | last
    · exact .inl (found.covered id below takes)
    · rw [last]
      exact .inr (List.mem_of_head? domain.head)
  case domains =>
    intro segment member
    rcases List.mem_append.mp member with old | last
    · obtain ⟨first, below, rest⟩ := found.domains segment old
      exact ⟨first, Nat.lt_succ_of_lt below, rest⟩
    · cases List.mem_singleton.mp last
      refine ⟨count, Nat.lt_succ_self _, participates, domain, ?_⟩
      intro other member
      refine Nat.le_of_not_lt fun below => new other member (found.covered other below ?_)
      exact (((domain.joined other).mp member).participates participates).2
  case once =>
    rw [List.flatMap_append, List.flatMap_singleton]
    refine List.nodup_append.mpr ⟨found.once, domain.once, ?_⟩
    rintro id old _ own rfl
    exact new id own ((found.reached id).mpr old)
  case increasing =>
    refine List.pairwise_append.mpr ⟨found.increasing, List.pairwise_singleton _ _, ?_⟩
    intro earlier old later last left leftHead right rightHead
    cases List.mem_singleton.mp last
    obtain ⟨first, below, _, earlierDomain, _⟩ := found.domains earlier old
    cases earlierDomain.head.symm.trans leftHead
    cases domain.head.symm.trans rightHead
    exact below

/-- One connection more. -/
theorem Found.step (linked : network.Linked) (found : Found network layer count state) :
    Found network layer (count + 1) (Segments.step network layer state count) := by
  obtain ⟨reached, segments⟩ := state
  unfold Segments.step
  dsimp only
  split
  case isTrue known =>
    apply found.skip
    intro takes
    simpa [takes] using known
  case isFalse new =>
    simp only [Bool.or_eq_true, Bool.not_eq_true', List.contains_eq_mem, decide_eq_true_eq,
      not_or, Bool.not_eq_false] at new
    exact found.start linked new.1 new.2 _

/-- Every run over the first connections finds their segments. -/
theorem found_foldl (linked : network.Linked) (count : Nat) :
    Found network layer count
      ((List.range count).foldl (Segments.step network layer) ([], [])) := by
  induction count with
  | zero =>
    refine ⟨fun id => Iff.rfl, fun id below => ?_, List.forall_mem_nil _, List.nodup_nil,
      List.Pairwise.nil⟩
    cases below
  | succ count inductionHypothesis =>
    rw [List.range_succ, List.foldl_append]
    exact inductionHypothesis.step linked

end Fold

/-- The segments of a layer are its broadcast domains. -/
theorem domains_ofLayer (linked : network.Linked) :
    BroadcastDomains network layer (ofLayer network layer) := by
  have found : Found network layer network.connections.size _ :=
    found_foldl linked network.connections.size
  have participating : ∀ id, id ∈ (ofLayer network layer).flatMap (·.connections) ↔
      Participates network layer id := by
    intro id
    constructor
    · intro member
      obtain ⟨segment, listed, member⟩ := List.mem_flatMap.mp member
      obtain ⟨first, _, participates, domain, _⟩ := found.domains segment listed
      exact ((domain.joined id).mp member).participates participates
    · intro participates
      exact (found.reached id).mp (found.covered id participates.1 participates.2)
  refine ⟨participating, found.once, fun left right leftTakes _ => ?_, fun segment listed => ?_,
    fun segment listed => ?_, found.increasing⟩
  · constructor
    · rintro ⟨segment, listed, leftMember, rightMember⟩
      obtain ⟨first, _, _, domain, _⟩ := found.domains segment listed
      exact ((domain.joined left).mp leftMember).symm.trans ((domain.joined right).mp rightMember)
    · intro joined
      obtain ⟨segment, listed, member⟩ :=
        List.mem_flatMap.mp ((participating left).mpr leftTakes)
      obtain ⟨first, _, _, domain, _⟩ := found.domains segment listed
      exact ⟨segment, listed, member,
        (domain.joined right).mpr (((domain.joined left).mp member).trans joined)⟩
  · obtain ⟨first, _, _, domain, _⟩ := found.domains segment listed
    exact ⟨domain.interfacesOnce, domain.aware⟩
  · obtain ⟨first, _, _, domain, smallest⟩ := found.domains segment listed
    obtain ⟨rest, whole⟩ := List.head?_eq_some_iff.mp domain.head
    refine ⟨first, rest, whole, ?_⟩
    intro other member
    have once := domain.once
    rw [whole] at once
    refine Nat.lt_of_le_of_ne (smallest other ?_) ?_
    · rw [whole]
      exact List.mem_cons_of_mem _ member
    · rintro rfl
      exact (List.nodup_cons.mp once).1 member

/-- In the network that a topology gives after resolution, the segments of every layer
are its broadcast domains. -/
theorem domains_of_resolve {config : Config} {topology : Topology} {extra : ExtraClasses}
    {built resolved : Network} (made : ofTopology config topology = .ok built)
    (run : (resolve config extra).outcome built = (.ok (), resolved)) (layer : Layer) :
    BroadcastDomains resolved layer (ofLayer resolved layer) :=
  domains_ofLayer (prepared_of_resolve made run).linked

end TopoPlan.Segments

namespace TopoPlan.Campus

open Network

/-- One layer with one policy, which hosts have. -/
def config : Config where
  name := "campus"
  layers := [layer]
  nodeClasses := [{ name := "host", interfacePolicies := ["office"] }]
where
  /-- The layer of all connections. -/
  layer : Layer :=
    { name := "ip"
      connectsByDefault := true
      policies := [{ name := "office", range := "10.0.0.0/16", subnetLength := 24 }] }

/-- Two hosts behind a bridge, and two hosts with a subnet of their own. -/
def topology : Topology where
  nodes := [{ name := "a", labels := ["host"] }, { name := "b" },
    { name := "c", labels := ["host"] }, { name := "d", labels := ["host"] },
    { name := "e", labels := ["host"] }]
  edges := [{ source := "a", target := "b" }, { source := "b", target := "c" },
    { source := "d", target := "e", labels := ["ip_net=10.0.0.0/25"] }]

/-- The network of the topology. -/
def built : Network := (ofTopology config topology).toOption.getD {}

/-- The network after resolution. -/
def resolved : Network := ((resolve config {}).outcome built).2

theorem built_eq : ofTopology config topology = .ok built :=
  Outcome.eq_ok_of_isOk {} (by decide +kernel)

theorem resolved_eq : (resolve config {}).outcome built = (.ok (), resolved) :=
  Stage.outcome_eq_ok (by decide +kernel)

/-- The bridge joins its two connections to one segment, and the third one is alone. -/
theorem domains_of_bridge :
    ofTopology config topology = .ok built ∧
      (resolve config {}).outcome built = (.ok (), resolved) ∧
      (Segments.ofLayer resolved config.layer).map (·.connections) = [[0, 1], [2]] ∧
      Segments.BroadcastDomains resolved config.layer (Segments.ofLayer resolved config.layer) :=
  ⟨built_eq, resolved_eq, by decide +kernel, Segments.domains_of_resolve built_eq resolved_eq _⟩

end TopoPlan.Campus
