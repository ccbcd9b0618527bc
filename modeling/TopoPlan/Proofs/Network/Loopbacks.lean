import TopoPlan.Proofs.Network.SettledHosts

/-!
# Loopback addresses

Every loopback policy has a pool of its own.  What keeps the addresses of several policies
apart is that a policy reads all loopback addresses of the layer, explicit ones and those of
earlier policies, before it hands out any.  The main statement, `loopbacksAssigned`, says
what the nodes have after all loopback policies of a layer were served in order.
-/

namespace TopoPlan

namespace Addressing

open Network Stage

variable {config : Config} {network after : Network} {layer : Layer} {policy : Policy}

/-! ## One policy -/

/-- A node with its loopback address. -/
def withLoopback (layer : String) (entry : NodeId × Subnet) (node : Node) : Node :=
  { node with parameters := node.parameters.set (loopbackKey layer) entry.2.network.text }

/-- Loopbacks given to nodes change the nodes one by one. -/
theorem nodes_foldl_giveLoopback (name : String) (network : Network)
    (entries : List (NodeId × Subnet)) :
    (entries.foldl (giveLoopback name) network).nodes =
      entries.foldl (fun nodes entry => nodes.modify entry.1 (withLoopback name entry))
        network.nodes := by
  induction entries generalizing network with
  | nil => rfl
  | cons entry rest inductionHypothesis =>
    rw [List.foldl_cons, inductionHypothesis]
    rfl

/-- Nodes that are not among those that are given an address keep what they have. -/
theorem loopback?_foldl_of_not_mem {entries : List (NodeId × Subnet)} {id : NodeId}
    (absent : id ∉ entries.map Prod.fst) :
    (entries.foldl (giveLoopback layer.name) network).loopback? layer id =
      network.loopback? layer id := by
  rw [loopback?, node, nodes_foldl_giveLoopback,
    getD_foldl_modify_of_not_mem Prod.fst (withLoopback layer.name) network.nodes default absent]
  rfl

/-- Each of several nodes is given its own address. -/
theorem loopback?_foldl {entries : List (NodeId × Subnet)} (once : (entries.map Prod.fst).Nodup)
    {entry : NodeId × Subnet} (listed : entry ∈ entries) (inside : entry.1 < network.nodes.size) :
    (entries.foldl (giveLoopback layer.name) network).loopback? layer entry.1 =
      some entry.2.network.text := by
  rw [loopback?, node, nodes_foldl_giveLoopback,
    getD_foldl_modify Prod.fst (withLoopback layer.name) network.nodes default once listed inside,
    withLoopback, Parameters.get?_set, if_pos rfl]

/-- What serving one policy does: nodes that wait for an address of the policy get one that
no other node has, and nothing else changes. -/
structure ServedPolicy (layer : Layer) (policy : Policy) (before after : Network) : Prop where
  size : after.nodes.size = before.nodes.size
  policies : ∀ id, (after.node id).policies = (before.node id).policies
  others : ∀ id, id ∉ before.waitingFor layer policy →
    after.loopback? layer id = before.loopback? layer id
  given : ∀ id ∈ before.waitingFor layer policy, ∃ range address,
    Subnet.parse policy.range = .ok range ∧ HostOf range address ∧
      after.loopback? layer id = some address.text ∧
      ∀ other, other ≠ id → after.loopbackAddress? layer other ≠ some address

/-- The blocks that nodes in a list are given by their place in it. -/
structure GivenBlocks (layer : Layer) (pool : Pool) (waiting : List NodeId)
    (before after : Network) (number : NodeId → Nat) : Prop extends Dealt pool waiting number where
  given : ∀ id ∈ waiting,
    after.loopback? layer id = some (pool.block (number id)).network.text
  others : ∀ id, id ∉ waiting → after.loopback? layer id = before.loopback? layer id

/-- Each of the nodes that wait gets the block with a free number of its own. -/
theorem givenBlocks (layer : Layer) {pool : Pool} {waiting : List NodeId} (once : waiting.Nodup)
    (enough : waiting.length ≤ pool.freeIndices.length)
    (inside : ∀ id ∈ waiting, id < network.nodes.size) :
    GivenBlocks layer pool waiting network
      ((waiting.zip ((pool.freeIndices.take waiting.length).map pool.block)).foldl
        (giveLoopback layer.name) network)
      fun id => pool.freeIndices.getD (waiting.idxOf id) 0 := by
  let blocks := (pool.freeIndices.take waiting.length).map pool.block
  have dealt := dealt_of_enough enough
  have keys : (waiting.zip blocks).map Prod.fst = waiting := by
    refine List.map_fst_zip (Nat.le_of_eq ?_)
    rw [List.length_map, List.length_take, Nat.min_eq_left enough]
  refine ⟨dealt, fun id listed => ?_, fun id absent => ?_⟩
  · have different : ((waiting.zip blocks).map Prod.fst).Nodup := by rwa [keys]
    exact loopback?_foldl different (dealt.paired id listed) (inside id listed)
  · apply loopback?_foldl_of_not_mem
    rwa [keys]

/-- Beyond the nodes there are no loopback addresses. -/
theorem lt_size_of_loopbackAddress? {id : NodeId} {address : Address}
    (found : network.loopbackAddress? layer id = some address) : id < network.nodes.size := by
  by_contra outside
  have absent : network.node id = default := getD_of_size_le (Nat.le_of_not_lt outside)
  rw [loopbackAddress?, loopback?, absent] at found
  cases found

/-- The block of a node is not the address of another node, when the addresses that there
were before are bound. -/
theorem GivenBlocks.alone {start pool : Pool} {waiting : List NodeId} {number : NodeId → Nat}
    (blocks : GivenBlocks layer pool waiting network after number)
    (binds : Pool.Binds start pool
      (Occupied (network.loopbackAddress? layer) start network.nodeIds))
    {id other : NodeId} (listed : id ∈ waiting) (different : other ≠ id) :
    after.loopbackAddress? layer other ≠ some (pool.block (number id)).network := by
  intro same
  by_cases waits : other ∈ waiting
  · rw [loopbackAddress?, blocks.given other waits, Option.bind_some, Address.parseHost?_text,
      Option.some_inj] at same
    exact blocks.network_ne waits listed different same
  · rw [loopbackAddress?, blocks.others other waits] at same
    -- The address of the other node was bound before any was handed out.
    have there := List.mem_range.mpr (lt_size_of_loopbackAddress? same)
    exact ne_of_occupied binds (blocks.free id listed) there same rfl

/-- Serving a policy gives addresses of its range that no other node has. -/
theorem servedPolicy_of_assignLoopbacks
    (run : (assignLoopbacks layer policy).outcome network = (.ok (), after)) :
    ServedPolicy layer policy network after := by
  have addressed := nodesAddressed_of_assignLoopbacks run
  obtain ⟨range, read, pool, made, ⟨guarded, waiting⟩, collect, taken, take, rfl⟩ :=
    assignLoopbacks_eq_ok.mp run
  have whole := HostPool.of_hostPool made
  obtain ⟨binds, same, _⟩ := loopbackState_eq_ok whole.sound collect
  dsimp only at binds same take
  obtain ⟨enough, rfl⟩ := binds.sound.blocks_of_take take
  subst same
  have hosts := whole.binds binds
  have once : (network.waitingFor layer policy).Nodup := List.nodup_range.filter _
  have inside : ∀ id ∈ network.waitingFor layer policy, id < network.nodes.size :=
    fun id listed => (mem_waitingFor.mp listed).1
  have blocks := givenBlocks layer once enough inside
  constructor
  case size => exact addressed.1
  case policies => exact fun id => (addressed.2 id).1
  case others => exact blocks.others
  case given =>
    intro id listed
    exact ⟨range, _, SegmentPlan.readSubnet_eq_ok read, hosts.hostOf (blocks.free id listed),
      blocks.given id listed, fun other different => blocks.alone binds listed different⟩

/-! ## All policies of a layer -/

/-- What serving several policies of a layer does.  A node has a policy among them when its
policy in the layer has the name of one. -/
structure LoopbacksAssigned (layer : Layer) (policies : List Policy) (before after : Network) :
    Prop where
  everyone : ∀ policy ∈ policies, ∀ id < before.nodes.size,
    (before.node id).policies[layer.name]? = some policy.name →
      (after.loopback? layer id).isSome = true
  given : ∀ policy ∈ policies, ∀ id < before.nodes.size,
    (before.node id).policies[layer.name]? = some policy.name →
      before.loopback? layer id = none → ∃ range address,
        Subnet.parse policy.range = .ok range ∧ HostOf range address ∧
          after.loopback? layer id = some address.text
  kept : ∀ id text, before.loopback? layer id = some text →
    after.loopback? layer id = some text
  others : ∀ id, before.loopback? layer id = none →
    (∀ policy ∈ policies, (before.node id).policies[layer.name]? ≠ some policy.name) →
      after.loopback? layer id = none
  apart : ∀ left right address, left ≠ right →
    after.loopbackAddress? layer left = some address →
      after.loopbackAddress? layer right = some address →
        (before.loopback? layer left).isSome = true ∧ (before.loopback? layer right).isSome = true

section Policies

variable {rest : List Policy} {middle : Network}

/-- A node that had a loopback address has the same one after a policy was served. -/
theorem ServedPolicy.kept (served : ServedPolicy layer policy network middle) {id : NodeId}
    {text : String} (explicit : network.loopback? layer id = some text) :
    middle.loopback? layer id = some text := by
  rw [served.others id fun waits => ?_, explicit]
  cases (mem_waitingFor.mp waits).2.1.symm.trans explicit

/-- When a node that shares its address after all policies had one after the first, it had
one before that. -/
theorem ServedPolicy.isSome_of_shared (served : ServedPolicy layer policy network middle)
    (kept : ∀ id text, middle.loopback? layer id = some text →
      after.loopback? layer id = some text)
    {left right : NodeId} {address : Address} (different : left ≠ right)
    (leftHas : after.loopbackAddress? layer left = some address)
    (rightHas : after.loopbackAddress? layer right = some address)
    (rightBefore : (middle.loopback? layer right).isSome = true)
    (leftBefore : (middle.loopback? layer left).isSome = true) :
    (network.loopback? layer left).isSome = true := by
  by_cases waits : left ∈ network.waitingFor layer policy
  · -- The address is new, and the right node had it already.
    obtain ⟨_, fresh, _, _, given, alone⟩ := served.given left waits
    rw [loopbackAddress?, kept left _ given, Option.bind_some, Address.parseHost?_text] at leftHas
    obtain ⟨text, same⟩ := Option.isSome_iff_exists.mp rightBefore
    refine (alone right different.symm ?_).elim
    rw [leftHas, ← rightHas, loopbackAddress?, loopbackAddress?, kept right text same, same]
  · rw [← served.others left waits]
    exact leftBefore

/-- A node of a later policy does not wait for the first one. -/
theorem ServedPolicy.absent_of_other (served : ServedPolicy layer policy network middle)
    {other : Policy} (different : policy.name ≠ other.name) {id : NodeId}
    (own : (network.node id).policies[layer.name]? = some other.name)
    (absent : network.loopback? layer id = none) : middle.loopback? layer id = none := by
  rw [served.others id fun waits => ?_, absent]
  have same := (mem_waitingFor.mp waits).2.2
  rw [own, Option.some_inj] at same
  exact different same.symm

/-- Serving one policy more gives its nodes addresses, and those of the later ones. -/
theorem LoopbacksAssigned.given_cons (served : ServedPolicy layer policy network middle)
    (assigned : LoopbacksAssigned layer rest middle after)
    (apart : ∀ other ∈ rest, policy.name ≠ other.name) {other : Policy}
    (listed : other ∈ policy :: rest) {id : NodeId} (inside : id < network.nodes.size)
    (own : (network.node id).policies[layer.name]? = some other.name)
    (absent : network.loopback? layer id = none) : ∃ range address,
      Subnet.parse other.range = .ok range ∧ HostOf range address ∧
        after.loopback? layer id = some address.text := by
  rcases List.mem_cons.mp listed with rfl | later
  · have waits := mem_waitingFor.mpr ⟨inside, absent, own⟩
    obtain ⟨range, address, read, host, given, _⟩ := served.given id waits
    exact ⟨range, address, read, host, assigned.kept id _ given⟩
  · apply assigned.given other later id
    · rwa [served.size]
    · rwa [served.policies]
    · exact served.absent_of_other (apart other later) own absent

/-- Serving one policy more. -/
theorem LoopbacksAssigned.cons (served : ServedPolicy layer policy network middle)
    (assigned : LoopbacksAssigned layer rest middle after)
    (apart : ∀ other ∈ rest, policy.name ≠ other.name) :
    LoopbacksAssigned layer (policy :: rest) network after where
  everyone other listed id inside own := by
    cases before : network.loopback? layer id with
    | none =>
      obtain ⟨_, _, _, _, given⟩ := assigned.given_cons served apart listed inside own before
      exact Option.isSome_of_eq_some given
    | some text => exact Option.isSome_of_eq_some (assigned.kept id text (served.kept before))
  given other listed id inside own absent :=
    assigned.given_cons served apart listed inside own absent
  kept id text explicit := assigned.kept id text (served.kept explicit)
  others id absent foreign := by
    apply assigned.others id
    · rw [served.others id fun waits => ?_, absent]
      exact foreign policy List.mem_cons_self (mem_waitingFor.mp waits).2.2
    · intro other later
      rw [served.policies]
      exact foreign other (List.mem_cons_of_mem _ later)
  apart left right address different leftHas rightHas := by
    obtain ⟨leftBefore, rightBefore⟩ :=
      assigned.apart left right address different leftHas rightHas
    constructor
    · exact served.isSome_of_shared assigned.kept different leftHas rightHas rightBefore leftBefore
    · exact served.isSome_of_shared assigned.kept different.symm rightHas leftHas leftBefore
        rightBefore

/-- Serving no policy changes nothing. -/
theorem loopbacksAssigned_nil : LoopbacksAssigned layer [] network network where
  everyone _ listed := absurd listed List.not_mem_nil
  given _ listed := absurd listed List.not_mem_nil
  kept _ _ explicit := explicit
  others _ absent _ := absent
  apart left right address _ leftHas rightHas := by
    have given {id : NodeId} (has : network.loopbackAddress? layer id = some address) :
        (network.loopback? layer id).isSome = true := by
      obtain ⟨text, explicit, _⟩ := Option.bind_eq_some_iff.mp has
      exact Option.isSome_of_eq_some explicit
    exact ⟨given leftHas, given rightHas⟩

/-- Policies with different names are served one after the other. -/
theorem loopbacksAssigned_of_forM {policies : List Policy}
    (once : (policies.map (·.name)).Nodup)
    (run : (policies.forM (assignLoopbacks layer)).outcome network = (.ok (), after)) :
    LoopbacksAssigned layer policies network after := by
  induction policies generalizing network with
  | nil =>
    cases run
    exact loopbacksAssigned_nil
  | cons policy rest inductionHypothesis =>
    rw [List.map_cons, List.nodup_cons] at once
    obtain ⟨middle, first, run⟩ := outcome_forM_cons_eq_ok.mp run
    apply (inductionHypothesis once.2 run).cons (servedPolicy_of_assignLoopbacks first)
    intro other later same
    exact once.1 (List.mem_map.mpr ⟨other, later, same.symm⟩)

end Policies

/-- Once all loopback policies of a layer were served, every node that has one of them has a
loopback address.  Addresses that were given explicitly stay, and the others are hosts of the
ranges of their policies.  No two nodes share an address that was not given to both. -/
theorem loopbacksAssigned (valid : config.validate = .ok ()) (member : layer ∈ config.layers)
    (run : (layer.loopbackPolicies.forM (assignLoopbacks layer)).outcome network =
      (.ok (), after)) :
    LoopbacksAssigned layer layer.loopbackPolicies network after :=
  loopbacksAssigned_of_forM
    ((Config.policyNames_nodup valid member).sublist (List.filter_sublist.map _)) run

end Addressing

namespace Backbone

open Network Addressing

/-- Core and edge routers take their loopbacks from ranges that overlap. -/
def layer : Layer where
  name := "ip"
  policies := [{ name := "core", kind := .loopback, range := "10.0.0.0/28" },
    { name := "edge", kind := .loopback, range := "10.0.0.0/29" }]

/-- The routers of the backbone. -/
def config : Config where
  name := "backbone"
  layers := [layer]
  nodeClasses := [{ name := "core", policies := ["core"] },
    { name := "edge", policies := ["edge"] }]

/-- The last of three routers has an explicit loopback. -/
def topology : Topology where
  nodes := [{ name := "a", labels := ["core"] }, { name := "b", labels := ["edge"] },
    { name := "c", labels := ["edge", "ip_loopback=10.0.0.2"] }]

/-- The network of the topology after resolution. -/
def resolved : Network :=
  ((resolve config {}).outcome ((ofTopology config topology).toOption.getD {})).2

/-- The network after all loopback policies were served. -/
def served : Network :=
  ((layer.loopbackPolicies.forM (assignLoopbacks layer)).outcome resolved).2

/-- The second router is given the first address that neither the first router got nor the
third one has. -/
theorem loopbacksAssigned_of_routers :
    config.validate = .ok () ∧ layer ∈ config.layers ∧
      (layer.loopbackPolicies.forM (assignLoopbacks layer)).outcome resolved = (.ok (), served) ∧
      LoopbacksAssigned layer layer.loopbackPolicies resolved served ∧
      [0, 1, 2].map (served.loopback? layer) =
        [some "10.0.0.1", some "10.0.0.3", some "10.0.0.2"] := by
  have valid : config.validate = .ok () := by decide +kernel
  have member : layer ∈ config.layers := List.mem_singleton.mpr rfl
  have run : (layer.loopbackPolicies.forM (assignLoopbacks layer)).outcome resolved =
      (.ok (), served) := Stage.outcome_eq_ok (by decide +kernel)
  exact ⟨valid, member, run, loopbacksAssigned valid member run, by decide +kernel⟩

end Backbone

end TopoPlan
