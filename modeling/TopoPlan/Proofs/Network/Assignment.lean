import TopoPlan.Proofs.Network.Distribution
import TopoPlan.Proofs.Network.Writes

/-!
# Assignments of a layer

A successful assignment of addresses in a layer is told by its parts: one plan for each
segment with interfaces, the plans with their subnets, and what they write.
`Assignment` collects these, and `assignment_of_outcome` is the main statement.
-/

namespace TopoPlan

namespace SegmentPlan

/-- A plan gives its segment at most one subnet. -/
theorem map_bounds_sublist (plans : List SegmentPlan) :
    ((plans.flatMap bounds).map Prod.fst).Sublist (plans.map (·.segment)) := by
  induction plans with
  | nil => exact .slnil
  | cons plan rest inductionHypothesis =>
    rw [List.flatMap_cons, List.map_append, List.map_cons]
    cases same : plan.subnet with
    | none => simpa [bounds, same] using inductionHypothesis.cons plan.segment
    | some subnet => simpa [bounds, same] using inductionHypothesis

end SegmentPlan

namespace Addressing

variable {network : Network} {layer : String} {plans : List SegmentPlan}
  {addresses : List (InterfaceId × Subnet × Address)} {links : List (ConnectionId × Subnet)}

/-- A segment whose plan has a subnet is bound to it. -/
theorem segment_written (once : (plans.map (·.segment)).Nodup) {plan : SegmentPlan}
    (listed : plan ∈ plans) {subnet : Subnet} (chosen : plan.subnet = some subnet)
    (inside : plan.segment < network.segments.size) :
    (written layer network addresses links (plans.flatMap SegmentPlan.bounds)).segment
      plan.segment = bound layer (plan.segment, subnet) (network.segment plan.segment) := by
  have entry : (plan.segment, subnet) ∈ plans.flatMap SegmentPlan.bounds :=
    List.mem_flatMap.mpr ⟨plan, listed, by simp [SegmentPlan.bounds, chosen]⟩
  have keys := once.sublist (SegmentPlan.map_bounds_sublist plans)
  exact getD_foldl_modify Prod.fst (bound layer) network.segments default keys entry inside

/-- A segment without a plan stays as it was. -/
theorem segment_written_of_not_mem {id : SegmentId} (absent : id ∉ plans.map (·.segment)) :
    (written layer network addresses links (plans.flatMap SegmentPlan.bounds)).segment id =
      network.segment id := by
  have keys : id ∉ (plans.flatMap SegmentPlan.bounds).map Prod.fst :=
    fun listed => absent ((SegmentPlan.map_bounds_sublist plans).subset listed)
  exact getD_foldl_modify_of_not_mem Prod.fst (bound layer) network.segments default keys

/-- An interface with an address is changed by it. -/
theorem interface_written {bounds : List (SegmentId × Subnet)}
    (once : (addresses.map Prod.fst).Nodup) {entry : InterfaceId × Subnet × Address}
    (listed : entry ∈ addresses) (inside : entry.1 < network.interfaces.size) :
    (written layer network addresses links bounds).interface entry.1 =
      addressed layer entry (network.interface entry.1) :=
  getD_foldl_modify Prod.fst (addressed layer) network.interfaces default once listed inside

/-- A connection with a subnet is changed by it. -/
theorem connection_written {bounds : List (SegmentId × Subnet)}
    (once : (links.map Prod.fst).Nodup) {entry : ConnectionId × Subnet} (listed : entry ∈ links)
    (inside : entry.1 < network.connections.size) :
    (written layer network addresses links bounds).connection entry.1 =
      linked layer entry (network.connection entry.1) :=
  getD_foldl_modify Prod.fst (linked layer) network.connections default once listed inside

variable {config : Config} {layer : Layer} {network after : Network}
  {plans final : List SegmentPlan}

/-- Segments of a layer are segments of the network. -/
theorem lt_of_mem_segmentsIn {id : SegmentId} (listed : id ∈ network.segmentsIn layer.name) :
    id < network.segments.size :=
  List.mem_range.mp (List.mem_filter.mp listed).1

/-- Segments of different layers are different. -/
theorem ne_of_mem_segmentsIn {left right : Layer} (different : left.name ≠ right.name)
    {id other : SegmentId} (own : id ∈ network.segmentsIn left.name)
    (foreign : other ∈ network.segmentsIn right.name) : id ≠ other := by
  rintro rfl
  have leftName := (List.mem_filter.mp own).2
  have rightName := (List.mem_filter.mp foreign).2
  rw [beq_iff_eq] at leftName rightName
  exact different (leftName.symm.trans rightName)

/-- Plans belong to the same segments when they have their subnets. -/
theorem Completed.map_segment {policies : List Policy}
    (completed : Completed network layer policies plans final) :
    final.map (·.segment) = plans.map (·.segment) := by
  have segment : (·.segment) = SegmentPlan.segment ∘ SegmentPlan.unbound := rfl
  rw [segment, ← List.map_map, completed.requests, List.map_map]

/-- Completed plans give subnets to segments of their layer. -/
theorem mem_segmentsIn_of_bounds (valid : config.validate = .ok ()) (member : layer ∈ config.layers)
    (complete : completePlans network config layer = .ok final) {entry : SegmentId × Subnet}
    (listed : entry ∈ final.flatMap SegmentPlan.bounds) :
    entry.1 ∈ network.segmentsIn layer.name := by
  obtain ⟨plans, planned, completed⟩ := completed_of_completePlans valid member complete
  have own := (SegmentPlan.map_bounds_sublist final).subset (List.mem_map_of_mem listed)
  rw [completed.map_segment, (plansOf_eq_ok planned).1] at own
  exact (List.mem_filter.mp own).1

/-- The assignment of a layer, as its parts tell it: the plans, the plans with their
subnets, and what was written. -/
structure Assignment (config : Config) (layer : Layer) (network after : Network)
    (plans final : List SegmentPlan) : Prop where
  segments : plans.map (·.segment) = (network.segmentsIn layer.name).filter fun id =>
    !(network.segment id).interfaces.isEmpty
  describes : ∀ plan ∈ plans, plan.Describes network layer config plan.segment
  completed : Completed network layer layer.segmentPolicies plans final
  wrote : after = written layer.name network (final.flatMap SegmentPlan.addresses)
    (final.flatMap (SegmentPlan.links network)) (final.flatMap SegmentPlan.bounds)
  hosts : ∀ plan ∈ final, ∀ subnet, plan.subnet = some subnet →
    ∃ hosts, plan.hosts? subnet = some hosts

/-- Every successful assignment has its parts. -/
theorem assignment_of_outcome (valid : config.validate = .ok ()) (member : layer ∈ config.layers)
    (run : (assignSegments config layer).outcome network = (.ok (), after)) :
    ∃ plans final, Assignment config layer network after plans final := by
  obtain ⟨final, complete, wrote, hosts⟩ := assignSegments_eq_ok run
  obtain ⟨plans, planned, completed⟩ := completed_of_completePlans valid member complete
  obtain ⟨segments, describes⟩ := plansOf_eq_ok planned
  exact ⟨plans, final, segments, describes, completed, wrote, hosts⟩

/-- The plans with their subnets belong to the same segments. -/
theorem Assignment.map_segment (assignment : Assignment config layer network after plans final) :
    final.map (·.segment) = plans.map (·.segment) :=
  assignment.completed.map_segment

/-- No segment has two plans. -/
theorem Assignment.once (assignment : Assignment config layer network after plans final) :
    (final.map (·.segment)).Nodup := by
  rw [assignment.map_segment, assignment.segments]
  exact (List.nodup_range.filter _).filter _

/-- The segments of the layer with interfaces have plans. -/
theorem Assignment.mem_iff (assignment : Assignment config layer network after plans final)
    (id : SegmentId) :
    id ∈ final.map (·.segment) ↔
      id ∈ network.segmentsIn layer.name ∧ (network.segment id).interfaces ≠ [] := by
  rw [assignment.map_segment, assignment.segments]
  simp

/-- A plan with its subnet asks for what a plan asked for that describes the segment. -/
theorem Assignment.request (assignment : Assignment config layer network after plans final)
    {plan : SegmentPlan} (listed : plan ∈ final) :
    ∃ request ∈ plans, request.unbound = plan.unbound ∧
      SegmentPlan.Describes network layer config plan.segment request := by
  have member := List.mem_map_of_mem (f := SegmentPlan.unbound) listed
  rw [assignment.completed.requests] at member
  obtain ⟨request, asked, same⟩ := List.mem_map.mp member
  have segment : request.unbound.segment = plan.unbound.segment := congrArg _ same
  exact ⟨request, asked, same, segment ▸ assignment.describes request asked⟩

/-- A segment whose plan has a subnet is bound to it. -/
theorem Assignment.segment (assignment : Assignment config layer network after plans final)
    {plan : SegmentPlan} (listed : plan ∈ final) {subnet : Subnet}
    (chosen : plan.subnet = some subnet) :
    after.segment plan.segment =
      bound layer.name (plan.segment, subnet) (network.segment plan.segment) := by
  have member := ((assignment.mem_iff _).mp (List.mem_map_of_mem listed)).1
  rw [assignment.wrote]
  exact segment_written assignment.once listed chosen (lt_of_mem_segmentsIn member)

/-- A segment without interfaces stays as it was. -/
theorem Assignment.segment_of_empty
    (assignment : Assignment config layer network after plans final) {id : SegmentId}
    (empty : (network.segment id).interfaces = []) : after.segment id = network.segment id := by
  rw [assignment.wrote]
  exact segment_written_of_not_mem fun member => ((assignment.mem_iff id).mp member).2 empty

end Addressing

end TopoPlan
