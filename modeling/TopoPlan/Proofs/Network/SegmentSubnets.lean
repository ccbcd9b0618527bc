import TopoPlan.Proofs.Network.Assignment
import TopoPlan.Proofs.Network.SearchedSegments

/-!
# Subnets of segments

A segment without explicit data gets a subnet of its policy.  `AutomaticSubnet` says
what this subnet is: it has the length of the policy, lies in its range, and shares no
address with the subnets of other segments that it could clash with.
`automatic_subnet` is the main statement.
-/

namespace TopoPlan

namespace Network

/-- All interfaces of a segment, of which there is one at least, have one policy. -/
def HasPolicy (network : Network) (layer : Layer) (policy : Policy) (id : SegmentId) : Prop :=
  (network.segment id).interfaces ≠ [] ∧ ∀ port ∈ (network.segment id).interfaces,
    (network.interface port).policies[layer.name]? = some policy.name

/-- A segment has been bound to a subnet of a policy that no explicit subnet and no
other subnet of the policy shares an address with. -/
structure AutomaticSubnet (network after : Network) (layer : Layer) (policy : Policy)
    (id : SegmentId) (subnet : Subnet) : Prop where
  bound : (after.segment id).subnet = some subnet
  length : subnet.length = policy.subnetLength
  inside : ∃ range, Subnet.parse policy.range = .ok range ∧ range.covers subnet = true
  explicit : ∀ other ∈ network.segmentsIn layer.name, network.HasExplicit layer other →
    ∀ given, (after.segment other).subnet = some given → ¬ subnet.Meets given
  automatic : ∀ other ∈ network.segmentsIn layer.name, other ≠ id →
    ¬ network.HasExplicit layer other → network.HasPolicy layer policy other →
      ∀ given, (after.segment other).subnet = some given → ¬ subnet.Meets given

end Network

namespace Addressing

open Network

variable {config : Config} {layer : Layer} {network after : Network}

/-- A subnet of a single address has no hosts. -/
theorem hosts?_eq_none {subnet : Subnet} (single : subnet.length = subnet.width) {count : Nat}
    (some : count ≠ 0) (reserved : List Address) : subnet.hosts? count reserved = none := by
  have size : subnet.size = 1 := by
    simp [Subnet.size, Subnet.hostBits, single]
  have unusable : 1 ≤ subnet.unusableCount := by
    unfold Subnet.unusableCount
    split <;> decide
  have counted : subnet.countedSize ≤ subnet.size := Nat.min_le_left _ _
  have none : subnet.hostCapacity reserved < count := by
    unfold Subnet.hostCapacity
    omega
  rw [Subnet.hosts?, if_neg some, if_pos none]

section Subnets

variable {plans final : List SegmentPlan}

/-- Without explicit data no interface has an explicit address. -/
theorem givenAddress?_eq_none {id : SegmentId} (automatic : ¬ network.HasExplicit layer id) :
    ∀ port ∈ (network.segment id).interfaces, network.givenAddress? layer port = none := by
  intro port onSegment
  by_contra given
  exact automatic (.inr ⟨port, onSegment, Option.isSome_iff_ne_none.mpr given⟩)

/-- The plan of a segment without explicit data asks for a subnet of one policy, which
all interfaces of the segment have. -/
theorem Assignment.waits (assignment : Assignment config layer network after plans final)
    (valid : config.validate = .ok ()) (member : layer ∈ config.layers) {plan : SegmentPlan}
    (listed : plan ∈ final) (automatic : ¬ network.HasExplicit layer plan.segment) :
    ∃ policy ∈ layer.segmentPolicies, network.HasPolicy layer policy plan.segment ∧
      Waits network layer policy plan := by
  obtain ⟨request, _, same, describes⟩ := assignment.request listed
  have policies : request.unbound.policy = plan.unbound.policy := congrArg _ same
  obtain ⟨_, inhabited⟩ := (assignment.mem_iff _).mp (List.mem_map_of_mem listed)
  have addressless := givenAddress?_eq_none automatic
  obtain ⟨first, onSegment⟩ := List.exists_mem_of_ne_nil _ inhabited
  obtain ⟨name, has⟩ :=
    Option.isSome_iff_exists.mp (describes.needed first onSegment (addressless first onSegment))
  have chosen := describes.policy first onSegment name has
  obtain ⟨found, definition, look, foundName, kind⟩ := describes.serves name chosen
  obtain ⟨foundMember, definitionMember, definitionName⟩ := Config.mem_of_policy? look
  cases Config.layer_eq_of_name valid foundMember member foundName
  refine ⟨definition, List.mem_filter.mpr ⟨definitionMember, by simp [kind]⟩,
    ⟨inhabited, fun port onSegment => ?_⟩, automatic, ?_⟩
  · obtain ⟨other, otherHas⟩ :=
      Option.isSome_iff_exists.mp (describes.needed port onSegment (addressless port onSegment))
    have same := (describes.policy port onSegment other otherHas).symm.trans chosen
    rw [otherHas, same, definitionName]
  · rw [definitionName]
    exact policies.symm.trans chosen

/-- The subnets of a policy that serves a segment are not single addresses, which would
leave no host address.  So its pool has fewer than `2 ^ 128` blocks. -/
theorem Assignment.few (assignment : Assignment config layer network after plans final)
    {plan : SegmentPlan} (listed : plan ∈ final) (automatic : ¬ network.HasExplicit layer plan.segment)
    {subnet : Subnet} (chosen : plan.subnet = some subnet) (bits : Nat) :
    subnet.length - bits < 128 := by
  by_contra many
  have longest : subnet.width ≤ 128 := by
    unfold Subnet.width Family.width
    split <;> decide
  have bound := subnet.length_le_width
  have single : subnet.length = subnet.width := by omega
  obtain ⟨request, _, same, describes⟩ := assignment.request listed
  have waiting : request.unbound.waiting = plan.unbound.waiting := congrArg _ same
  have waits : plan.waiting.length ≠ 0 := by
    intro none
    obtain ⟨_, inhabited⟩ := (assignment.mem_iff _).mp (List.mem_map_of_mem listed)
    obtain ⟨first, onSegment⟩ := List.exists_mem_of_ne_nil _ inhabited
    have free := givenAddress?_eq_none automatic first onSegment
    have member : first ∈ request.waiting := by
      rw [describes.waiting]
      exact List.mem_filter.mpr ⟨onSegment, by simp [free]⟩
    rw [show request.waiting = plan.waiting from waiting,
      List.eq_nil_of_length_eq_zero none] at member
    cases member
  obtain ⟨hosts, found⟩ := assignment.hosts plan listed subnet chosen
  rw [SegmentPlan.hosts?, hosts?_eq_none single waits] at found
  cases found

/-- The plan of a segment with interfaces. -/
theorem Assignment.exists_plan (assignment : Assignment config layer network after plans final)
    {id : SegmentId} (listed : id ∈ network.segmentsIn layer.name)
    (inhabited : (network.segment id).interfaces ≠ []) :
    ∃ plan ∈ final, plan.segment = id :=
  List.mem_map.mp ((assignment.mem_iff id).mpr ⟨listed, inhabited⟩)

/-- An explicit segment that has been bound is bound to the subnet of its plan. -/
theorem Assignment.mem_explicit (assignment : Assignment config layer network after plans final)
    (partitioned : network.Partitioned) {id : SegmentId}
    (listed : id ∈ network.segmentsIn layer.name) (explicit : network.HasExplicit layer id)
    {given : Subnet} (bound : (after.segment id).subnet = some given) :
    given ∈ plans.filterMap (·.subnet) := by
  have unbound := partitioned.subnet_eq_none (lt_of_mem_segmentsIn listed)
  have inhabited : (network.segment id).interfaces ≠ [] := by
    intro empty
    rw [assignment.segment_of_empty empty, unbound] at bound
    cases bound
  obtain ⟨plan, member, rfl⟩ := assignment.exists_plan listed inhabited
  have kept : plan ∈ plans :=
    assignment.completed.kept plan member fun _ _ waits => waits.1 explicit
  obtain ⟨subnet, chosen⟩ := Option.isSome_iff_exists.mp
    ((assignment.describes plan kept).explicit.mpr explicit)
  rw [assignment.segment member chosen] at bound
  cases bound
  exact List.mem_filterMap.mpr ⟨plan, kept, chosen⟩

end Subnets

/-- A segment with interfaces and without explicit data is bound to a subnet of its
policy, apart from all explicit subnets and all other subnets of the policy. -/
theorem automatic_subnet (valid : config.validate = .ok ()) (member : layer ∈ config.layers)
    (searched : Searched config network)
    (run : (assignSegments config layer).outcome network = (.ok (), after))
    {id : SegmentId} (listed : id ∈ network.segmentsIn layer.name)
    (automatic : ¬ network.HasExplicit layer id)
    (inhabited : (network.segment id).interfaces ≠ []) :
    ∃ policy ∈ layer.segmentPolicies, network.HasPolicy layer policy id ∧
      ∃ subnet, AutomaticSubnet network after layer policy id subnet := by
  obtain ⟨plans, final, assignment⟩ := assignment_of_outcome valid member run
  have partitioned := partitioned_of_searched valid searched
  obtain ⟨plan, planned, rfl⟩ := assignment.exists_plan listed inhabited
  obtain ⟨policy, serving, hasPolicy, waits⟩ := assignment.waits valid member planned automatic
  obtain ⟨subnet, chosen, range, parsed, inside, length, apart⟩ :=
    assignment.completed.served policy serving plan planned waits
  refine ⟨policy, serving, hasPolicy, subnet, ?_, length, ⟨range, parsed, inside⟩, ?_, ?_⟩
  · rw [assignment.segment planned chosen]
    rfl
  · intro other otherListed explicit given bound
    have few := assignment.few planned automatic chosen range.length
    rw [length] at few
    exact apart few given (assignment.mem_explicit partitioned otherListed explicit bound)
  · intro other otherListed different otherAutomatic otherPolicy given bound
    obtain ⟨otherPlan, otherPlanned, rfl⟩ := assignment.exists_plan otherListed otherPolicy.1
    obtain ⟨found, _, foundPolicy, foundWaits⟩ :=
      assignment.waits valid member otherPlanned otherAutomatic
    obtain ⟨port, onSegment⟩ := List.exists_mem_of_ne_nil _ otherPolicy.1
    have same := (foundPolicy.2 port onSegment).symm.trans (otherPolicy.2 port onSegment)
    have otherWaits : Waits network layer policy otherPlan :=
      ⟨otherAutomatic, foundWaits.2.trans same⟩
    obtain ⟨block, otherChosen, _⟩ :=
      assignment.completed.served policy serving otherPlan otherPlanned otherWaits
    rw [assignment.segment otherPlanned otherChosen] at bound
    cases bound
    exact assignment.completed.apart policy serving plan planned otherPlan otherPlanned waits
      otherWaits different.symm subnet chosen _ otherChosen

end Addressing

namespace Campus

open Addressing Network

/-- The network with its segments. -/
def searched : Network := ((Segments.addAll config).outcome resolved).2

/-- The network with the addresses of its layer. -/
def addressed : Network := ((assignSegments config config.layer).outcome searched).2

theorem config_valid : config.validate = .ok () := by decide +kernel

theorem searched_searched : Searched config searched :=
  ⟨topology, {}, built, resolved, built_eq, resolved_eq, Stage.outcome_eq_ok (by decide +kernel)⟩

/-- Addresses are assigned without error. -/
theorem addressed_eq :
    (assignSegments config config.layer).outcome searched = (.ok (), addressed) :=
  Stage.outcome_eq_ok (by decide +kernel)

/-- The first segment gets the second block of its policy, since the other segment has
a half of the first block. -/
theorem automatic_subnet_of_bridge :
    0 ∈ searched.segmentsIn config.layer.name ∧ ¬ searched.HasExplicit config.layer 0 ∧
      (searched.segment 0).interfaces ≠ [] ∧
      (addressed.segment 0).subnet.map Subnet.text = some "10.0.1.0/24" ∧
      ∃ policy ∈ config.layer.segmentPolicies, searched.HasPolicy config.layer policy 0 ∧
        ∃ subnet, AutomaticSubnet searched addressed config.layer policy 0 subnet := by
  have listed : 0 ∈ searched.segmentsIn config.layer.name := by decide +kernel
  have automatic : ¬ searched.HasExplicit config.layer 0 := by decide +kernel
  have inhabited : (searched.segment 0).interfaces ≠ [] := by decide +kernel
  exact ⟨listed, automatic, inhabited, by decide +kernel,
    automatic_subnet config_valid List.mem_cons_self searched_searched addressed_eq listed
      automatic inhabited⟩

end Campus

end TopoPlan
