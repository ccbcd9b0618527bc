import TopoPlan.Address.Pool
import TopoPlan.Network.SegmentPlan
import TopoPlan.Network.Stage

/-!
# Addressing

Segments get a subnet and their interfaces an address each, nodes get loopback
addresses, and management interfaces get addresses of the management range.  What
is given explicitly is reserved before anything is handed out.
-/

namespace TopoPlan.Addressing

/-- The pools of the policies of a layer, by name. -/
def poolsOf (layer : Layer) : Except CompileError (Table Pool) :=
  layer.segmentPolicies.foldlM
    (fun (pools : Table Pool) policy => do
      let range <- readSubnet policy.range
      let pool <- Pool.ofRange policy.name range policy.subnetLength
      pure (pools.insert policy.name pool))
    {}

/-- The plans of the segments of a layer that have interfaces. -/
def plansOf (network : Network) (config : Config) (layer : Layer) :
    Except CompileError (List SegmentPlan) :=
  ((network.segmentsIn layer.name).filter fun id =>
    !(network.segment id).interfaces.isEmpty).mapM (SegmentPlan.ofSegment network config layer)

/-- Reserve a subnet in every pool, one after the other. -/
def reserveEverywhere (pools : Table Pool) (subnet : Subnet) :
    Except CompileError (Table Pool) :=
  pools.updateAll fun pool => pool.reserve subnet

/-- Reserve the subnets that explicit data give, in every pool. -/
def reserveExplicit (plans : List SegmentPlan) (pools : Table Pool) :
    Except CompileError (Table Pool) :=
  (plans.filterMap (·.subnet)).foldlM reserveEverywhere pools

/-- Whether a plan waits for a subnet of a policy. -/
def waitsFor (policy : String) (plan : SegmentPlan) : Bool :=
  plan.subnet.isNone && plan.policy == some policy

/-- Give subnets, in order, to the plans that wait for a policy. -/
def fill (policy : String) : List SegmentPlan -> List Subnet -> List SegmentPlan
  | [], _ => []
  | plans, [] => plans
  | plan :: rest, subnet :: subnets =>
    if waitsFor policy plan then
      { plan with subnet := some subnet } :: fill policy rest subnets
    else plan :: fill policy rest (subnet :: subnets)

/-- Hand out subnets of one policy to the plans that wait for it. -/
def handOut (layer : Layer) (state : Table Pool × List SegmentPlan) (policy : Policy) :
    Except CompileError (Table Pool × List SegmentPlan) := do
  let (pools, plans) := state
  let count := (plans.filter (waitsFor policy.name)).length
  if count = 0 then pure state
  else
    match pools[policy.name]? with
    | none => throw (.undefinedPolicy policy.name ("layer " ++ layer.name))
    | some pool =>
      let (outcome, pool) := pool.take count
      let subnets <- outcome
      pure (pools.insert policy.name pool, fill policy.name plans subnets)

/-- The plans of a layer with all subnets handed out. -/
def completePlans (network : Network) (config : Config) (layer : Layer) :
    Except CompileError (List SegmentPlan) := do
  let pools <- poolsOf layer
  let plans <- plansOf network config layer
  let pools <- reserveExplicit plans pools
  let (_, plans) <- layer.segmentPolicies.foldlM (handOut layer) (pools, plans)
  pure plans

/-- The parameters of a subnet in a layer. -/
def subnetParameters (layer : String) (subnet : Subnet) : List (String × String) :=
  [(subnetKey layer, subnet.text), (lengthKey layer, Numeral.text subnet.length)]

/-- The parameters of an address in a subnet of a layer. -/
def addressParameters (layer : String) (subnet : Subnet) (address : Address) :
    List (String × String) :=
  (addressKey layer, address.text) :: subnetParameters layer subnet

/-- Give an interface its address. -/
def giveAddress (layer : String) (subnet : Subnet) (network : Network)
    (entry : InterfaceId × Address) : Network :=
  network.updateInterface entry.1 fun interface =>
    { interface with
      parameters := interface.parameters.setAll (addressParameters layer subnet entry.2) }

/-- Give a connection the subnet of its segment, unless it has one. -/
def giveConnectionSubnet (layer : String) (subnet : Subnet) (network : Network)
    (id : ConnectionId) : Network :=
  network.updateConnection id fun connection =>
    { connection with
      parameters := connection.parameters.setIfAbsent (subnetKey layer) subnet.text }

/-- Give a segment its subnet. -/
def giveSegmentSubnet (layer : String) (subnet : Subnet) (network : Network) (id : SegmentId) :
    Network :=
  network.updateSegment id fun segment =>
    { segment with
      subnet := some subnet
      parameters := segment.parameters.setAll (subnetParameters layer subnet) }

/-- Write a plan into the network: the addresses of its interfaces, then the subnet
of its connections and of the segment. -/
def writePlan (layer : String) (network : Network) (plan : SegmentPlan) (subnet : Subnet)
    (hosts : List Address) : Network :=
  let given := plan.waiting.zip hosts ++ plan.reserved
  let addressed := given.foldl (giveAddress layer subnet) network
  let connected := (network.segment plan.segment).connections.foldl
    (giveConnectionSubnet layer subnet) addressed
  giveSegmentSubnet layer subnet connected plan.segment

/-- Assign the addresses of one plan. -/
def assignPlan (layer : Layer) (plan : SegmentPlan) : Stage Unit :=
  match plan.subnet with
  | none => pure ()
  | some subnet => do
    let hosts <- Stage.require
      (subnet.hosts? plan.waiting.length (plan.reserved.map (·.2)))
      (.addressExhausted subnet plan.waiting.length)
    modify fun network => writePlan layer.name network plan subnet hosts

/-- Give every segment of a layer a subnet, and every interface that knows the layer
an address. -/
def assignSegments (config : Config) (layer : Layer) : Stage Unit := do
  let plans <- Stage.ofExcept (completePlans (<- get) config layer)
  plans.forM (assignPlan layer)

/-- A pool of single addresses without the network address and, for family v4, the
broadcast address of a range of more than one address. -/
def hostPool (name : String) (range : Subnet) : Except CompileError Pool := do
  let pool <- Pool.ofRange name range range.width
  let pool <- pool.reserveAddress range.network
  if range.family = .v4 && 1 < pool.length then pool.reserve (<- pool.last) else pure pool

/-- The pool of a loopback policy without the explicit addresses of a layer, and the
nodes that wait for an address. -/
def loopbackState (network : Network) (layer : Layer) (policy : Policy) (pool : Pool) :
    Except CompileError (Pool × List NodeId) :=
  network.nodeIds.foldlM
    (fun (state : Pool × List NodeId) id => do
      let node := network.node id
      match node.parameters.get? (loopbackKey layer.name) with
      | some text =>
        let address <- readAddress text
        let pool <- state.1.reserveAddress address
        pure (pool, state.2)
      | none =>
        if node.policies[layer.name]? == some policy.name then pure (state.1, state.2 ++ [id])
        else pure state)
    (pool, [])

/-- Give every node of a loopback policy an address. -/
def assignLoopbacks (layer : Layer) (policy : Policy) : Stage Unit := do
  let network <- get
  let range <- Stage.ofExcept (readSubnet policy.range)
  let pool <- Stage.ofExcept (hostPool policy.name range)
  let (pool, waiting) <- Stage.ofExcept (loopbackState network layer policy pool)
  let blocks <- Stage.ofExcept (pool.take waiting.length).1
  set ((waiting.zip blocks).foldl
    (fun (current : Network) entry => current.updateNode entry.1 fun node =>
      { node with
        parameters := node.parameters.set (loopbackKey layer.name) entry.2.network.text })
    network)

/-- The gateway of the management range: the given one, or the first host. -/
def gatewayOf (management : ManagementLayer) (range : Subnet) : Except CompileError Address :=
  match management.gateway with
  | some text => readAddress text
  | none =>
    match range.network.next? with
    | some address => .ok address
    | none => .error (.invalidAddress management.range .noGateway)

/-- Management interfaces with and without an explicit address, and the pool without
the explicit ones. -/
structure ManagementState where
  pool : Pool
  assigned : List (InterfaceId × Address) := []
  waiting : List InterfaceId := []

/-- Collect the management interfaces. -/
def managementState (network : Network) (management : ManagementLayer) (pool : Pool) :
    Except CompileError ManagementState :=
  (network.interfaceIds.filter fun id => (network.interface id).isManagement).foldlM
    (fun (state : ManagementState) id => do
      match (network.interface id).parameters.get? (addressKey management.name) with
      | some text =>
        let address <- readAddress text
        let pool <- state.pool.reserveAddress address
        pure { state with
          pool
          assigned := state.assigned ++ [(id, address)] }
      | none => pure { state with waiting := state.waiting ++ [id] })
    { pool }

/-- Give every management interface an address of the management range. -/
def assignManagement (config : Config) : Stage Unit := do
  match config.management with
  | none => pure ()
  | some management =>
    let network <- get
    let range <- Stage.ofExcept (readSubnet management.range)
    let pool <- Stage.ofExcept (hostPool management.name range)
    let gateway <- Stage.ofExcept (gatewayOf management range)
    let pool <- Stage.ofExcept (pool.reserveAddress gateway)
    let state <- Stage.ofExcept (managementState network management pool)
    let blocks <- Stage.ofExcept (state.pool.take state.waiting.length).1
    let assigned := state.assigned ++ state.waiting.zip (blocks.map (·.network))
    set (assigned.foldl (giveAddress management.name range) network)

/-- Assign all addresses of one layer. -/
def assignLayer (config : Config) (layer : Layer) : Stage Unit := do
  assignSegments config layer
  layer.loopbackPolicies.forM (assignLoopbacks layer)

/-- Assign all addresses. -/
def assignAll (config : Config) : Stage Unit := do
  config.layers.forM (assignLayer config)
  assignManagement config

end TopoPlan.Addressing
