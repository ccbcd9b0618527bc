import TopoPlan.Network.Addressing
import TopoPlan.Network.Segments
import TopoPlan.Proofs.Failures

/-!
# Failures of addressing

Whatever addresses are given, their assignment fails with reported errors only: of
pools that are exhausted, texts that are no addresses, and data that contradict each other.
-/

namespace TopoPlan

open Outcome

namespace Pool

variable {pool : Pool}

/-- A pool that cannot be made is reported. -/
@[grind ←]
theorem reports_ofRange {name : String} {range : Subnet} {blockLength : Nat} :
    Reports (ofRange name range blockLength) := by
  grind [ofRange]

/-- An address outside a pool is reported. -/
@[grind ←]
theorem reports_blockAround {shown : String} {address : Address} :
    Reports (pool.blockAround shown address) := by
  grind [blockAround]

@[grind ←]
theorem reports_get {index : Nat} : Reports (pool.get index) := by
  grind [get]

/-- A subnet that is no block is reported. -/
@[grind ←]
theorem reports_indexOf {subnet : Subnet} : Reports (pool.indexOf subnet) := by
  grind [indexOf]

/-- Blocks beyond the end of a pool are reported. -/
@[grind ←]
theorem reports_bindFrom {shown : String} {address : Address} {count : Nat} :
    Reports (pool.bindFrom shown address count) := by
  grind [bindFrom]

@[grind ←]
theorem reports_reserveAddress {address : Address} : Reports (pool.reserveAddress address) := by
  grind [reserveAddress]

/-- A subnet that cannot be reserved is reported. -/
@[grind ←]
theorem reports_reserve {subnet : Subnet} : Reports (pool.reserve subnet) := by
  grind [reserve]

theorem reports_handOut {indices : List Nat} : Reports (pool.handOut indices).1 := by
  induction indices generalizing pool with
  | nil => exact reports_ok []
  | cons index rest inductionHypothesis =>
    unfold handOut
    dsimp only
    split
    case h_1 error failed => exact reports_error (reports_get error failed)
    case h_2 => exact reports_map inductionHypothesis

/-- A pool without enough free blocks is reported. -/
@[grind ←]
theorem reports_take {count : Nat} : Reports (pool.take count).1 := by
  unfold take
  dsimp only
  split
  · exact reports_handOut
  · exact reports_error trivial

end Pool

/-- A text that is no subnet is reported. -/
@[grind ←]
theorem reports_readSubnet {text : String} : Reports (readSubnet text) := by
  unfold readSubnet
  split
  · exact reports_ok _
  · exact reports_error trivial

/-- A text that is no address is reported. -/
@[grind ←]
theorem reports_readAddress {text : String} : Reports (readAddress text) := by
  unfold readAddress
  split
  · exact reports_ok _
  · exact reports_error trivial

namespace SegmentPlan

variable {network : Network} {config : Config} {layer : Layer} {segment : Segment}

/-- Interfaces with an unknown policy are reported. -/
theorem reports_policyOf {id : InterfaceId} : Reports (policyOf network config layer id) := by
  grind [policyOf]

/-- Different policies in one segment are reported. -/
theorem reports_segmentPolicy : Reports (segmentPolicy network config layer segment) := by
  grind [segmentPolicy, reports_policyOf]

/-- Different subnets in one segment are reported. -/
theorem reports_connectionSubnet : Reports (connectionSubnet network layer segment) := by
  refine reports_foldlM fun id _ bound => ?_
  split
  · exact reports_pure _
  · refine reports_bind reports_readSubnet fun _ _ => ?_
    split
    · exact reports_ite (fun _ => reports_pure _) fun _ => reports_throw trivial
    · exact reports_pure _

/-- A text that is no length is reported. -/
theorem reports_givenLength {text : String} : Reports (givenLength text) := by
  grind [givenLength]

/-- Explicit data that cannot be read are reported. -/
theorem reports_readExplicit : Reports (readExplicit network layer segment) := by
  grind [readExplicit, reports_givenLength]

/-- Explicit addresses of different subnets are reported. -/
theorem reports_impliedSubnet {length : Nat} {reserved : List (InterfaceId × Address)} :
    Reports (impliedSubnet network segment length reserved) := by
  refine reports_foldlM fun entry _ bound => ?_
  split
  · exact reports_throw trivial
  · split
    · exact reports_ite (fun _ => reports_pure _) fun _ => reports_throw trivial
    · exact reports_pure _

/-- Explicit data that contradict each other are reported. -/
theorem reports_explicitSubnet {policy : Option String} {explicit : Explicit}
    {given : Option Subnet} :
    Reports (explicitSubnet network config segment policy explicit given) := by
  unfold explicitSubnet
  split
  · exact reports_bind
      (reports_forM fun _ _ => reports_ite (fun _ => reports_ok _) fun _ => reports_error trivial)
      fun _ _ => reports_pure _
  · split
    · exact reports_impliedSubnet
    · exact reports_ok none

/-- Addresses outside the subnet of their segment are reported. -/
theorem reports_checkBounded {policy : Option String} {explicit : Explicit}
    {subnet : Option Subnet} : Reports (checkBounded network layer policy explicit subnet) := by
  grind [checkBounded]

/-- What is wrong with a segment is reported. -/
theorem reports_ofSegment {id : SegmentId} : Reports (ofSegment network config layer id) := by
  refine reports_bind reports_segmentPolicy fun _ _ => ?_
  refine reports_bind reports_connectionSubnet fun _ _ => ?_
  refine reports_bind reports_readExplicit fun _ _ => ?_
  refine reports_bind reports_explicitSubnet fun _ _ => ?_
  exact reports_bind reports_checkBounded fun _ _ => reports_pure _

end SegmentPlan

namespace Addressing

variable {network : Network} {config : Config} {layer : Layer}

/-- Pools that cannot be made are reported. -/
theorem reports_poolsOf : Reports (poolsOf layer) := by
  grind [poolsOf]

/-- Explicit subnets that cannot be reserved are reported. -/
theorem reports_reserveExplicit {plans : List SegmentPlan} {pools : Table Pool} :
    Reports (reserveExplicit plans pools) := by
  grind [reserveExplicit, reserveEverywhere, Table.updateAll]

theorem reports_handOut {state : Table Pool × List SegmentPlan} {policy : Policy} :
    Reports (handOut layer state policy) := by
  grind [handOut]

/-- What is wrong with the segments of a layer is reported. -/
theorem reports_completePlans : Reports (completePlans network config layer) := by
  refine reports_bind reports_poolsOf fun _ _ => ?_
  refine reports_bind (reports_mapM fun _ _ => SegmentPlan.reports_ofSegment) fun _ _ => ?_
  refine reports_bind reports_reserveExplicit fun _ _ => ?_
  exact reports_bind (reports_foldlM fun _ _ _ => reports_handOut) fun _ _ => reports_pure _

theorem reports_hostPool {name : String} {range : Subnet} : Reports (hostPool name range) := by
  grind [hostPool, Pool.last]

/-- Loopback addresses that cannot be reserved are reported. -/
theorem reports_loopbackState {policy : Policy} {pool : Pool} :
    Reports (loopbackState network layer policy pool) := by
  grind [loopbackState]

/-- A gateway that is no address of its range is reported. -/
theorem reports_gatewayOf {management : ManagementLayer} {range : Subnet} :
    Reports (gatewayOf management range) := by
  grind [gatewayOf]

/-- Management addresses that cannot be reserved are reported. -/
theorem reports_managementState {management : ManagementLayer} {pool : Pool} :
    Reports (managementState network management pool) := by
  grind [managementState]

/-- The addresses of the segments of a layer. -/
theorem reports_assignSegments : Stage.Reports (assignSegments config layer) := by
  refine Stage.reports_bind Stage.reports_get fun _ => ?_
  refine Stage.reports_bind (Stage.reports_ofExcept reports_completePlans) fun plans => ?_
  refine Stage.reports_forM fun plan _ => ?_
  unfold assignPlan
  split
  · exact Stage.reports_pure _
  · exact Stage.reports_bind (Stage.reports_require trivial) fun _ => Stage.reports_modify _

/-- The loopback addresses of a policy. -/
theorem reports_assignLoopbacks {policy : Policy} :
    Stage.Reports (assignLoopbacks layer policy) := by
  refine Stage.reports_bind Stage.reports_get fun _ => ?_
  refine Stage.reports_bind (Stage.reports_ofExcept reports_readSubnet) fun _ => ?_
  refine Stage.reports_bind (Stage.reports_ofExcept reports_hostPool) fun _ => ?_
  refine Stage.reports_bind (Stage.reports_ofExcept reports_loopbackState) fun _ => ?_
  exact Stage.reports_bind (Stage.reports_ofExcept Pool.reports_take) fun _ => Stage.reports_set _

/-- The addresses of management interfaces. -/
theorem reports_assignManagement : Stage.Reports (assignManagement config) := by
  unfold assignManagement
  split
  · exact Stage.reports_pure _
  · refine Stage.reports_bind Stage.reports_get fun _ => ?_
    refine Stage.reports_bind (Stage.reports_ofExcept reports_readSubnet) fun _ => ?_
    refine Stage.reports_bind (Stage.reports_ofExcept reports_hostPool) fun _ => ?_
    refine Stage.reports_bind (Stage.reports_ofExcept reports_gatewayOf) fun _ => ?_
    refine Stage.reports_bind (Stage.reports_ofExcept Pool.reports_reserveAddress) fun _ => ?_
    refine Stage.reports_bind (Stage.reports_ofExcept reports_managementState) fun _ => ?_
    exact Stage.reports_bind (Stage.reports_ofExcept Pool.reports_take) fun _ =>
      Stage.reports_set _

/-- All addresses. -/
theorem reports_assignAll : Stage.Reports (assignAll config) := by
  refine Stage.reports_bind (Stage.reports_forM fun layer _ => ?_) fun _ => reports_assignManagement
  exact Stage.reports_bind reports_assignSegments fun _ =>
    Stage.reports_forM fun _ _ => reports_assignLoopbacks

end Addressing

/-- The segments of all layers, with the classes that labels address to them. -/
theorem Segments.reports_addAll {config : Config} : Stage.Reports (addAll config) := by
  refine Stage.reports_forM fun layer _ => Stage.reports_bind Stage.reports_get fun _ => ?_
  refine Stage.reports_forM fun segment _ => Stage.reports_bind Stage.reports_get fun _ => ?_
  refine Stage.reports_bind (Stage.reports_modify _) fun _ => ?_
  refine Stage.reports_bind (Stage.reports_modify _) fun _ => ?_
  refine Stage.reports_bind Stage.reports_get fun _ => Stage.reports_forM fun request _ => ?_
  exact Stage.reports_bind (Stage.reports_require trivial) fun _ => Stage.reports_modify _

end TopoPlan
