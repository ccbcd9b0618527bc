import TopoPlan.Proofs.Network.SegmentSubnets

/-!
# Subnets of policies

The segments without explicit data that have one policy get the lowest subnets of the
policy that share no address with an explicit subnet: `lowest_subnets`.  What the pool of
one policy hands out is not reserved in the pools of the others.  So policies whose ranges
start at the same address give the same subnets (`same_subnet_of_start`).  Policies whose
ranges share no address give subnets that share none (`policiesApart_of_ranges`).
-/

namespace TopoPlan

namespace Pool

variable {candidates : Set Subnet} {count : Nat} {first : Subnet} {rest : List Subnet}

/-- No candidate starts before the first of the lowest ones. -/
theorem Lowest.head_le (lowest : Lowest candidates count (first :: rest)) :
    ∀ other ∈ candidates, first.network.value ≤ other.network.value := by
  intro other candidate
  by_contra lower
  have listed := lowest.lowest first List.mem_cons_self other candidate (Nat.lt_of_not_le lower)
  rcases List.mem_cons.mp listed with rfl | behind
  · exact lower le_rfl
  · exact lower ((List.pairwise_cons.mp lowest.increasing).1 other behind).le

/-- After the first one follow the lowest of the candidates behind it. -/
theorem Lowest.tail (lowest : Lowest candidates count (first :: rest)) :
    Lowest {other ∈ candidates | first.network.value < other.network.value} rest.length rest where
  length := rfl
  candidate other listed := ⟨lowest.candidate other (List.mem_cons_of_mem first listed),
    (List.pairwise_cons.mp lowest.increasing).1 other listed⟩
  increasing := (List.pairwise_cons.mp lowest.increasing).2
  lowest := by
    rintro block listed other ⟨candidate, behind⟩ lower
    have found := lowest.lowest block (List.mem_cons_of_mem first listed) other candidate lower
    rcases List.mem_cons.mp found with rfl | found
    · exact absurd behind (lt_irrefl _)
    · exact found

/-- Two lists of lowest candidates agree as far as both reach, where no two candidates
start at the same address. -/
theorem Lowest.eq_of_getElem? {left right : List Subnet} {other index : Nat} {second : Subnet}
    (leftLowest : Lowest candidates count left) (rightLowest : Lowest candidates other right)
    (distinct : ∀ first ∈ candidates, ∀ second ∈ candidates,
      first.network.value = second.network.value → first = second)
    (leftFound : left[index]? = some first) (rightFound : right[index]? = some second) :
    first = second := by
  induction left generalizing candidates count right other index with
  | nil => cases leftFound
  | cons leftFirst leftRest inductionHypothesis =>
    cases right with
    | nil => cases rightFound
    | cons rightFirst rightRest =>
      have leftCandidate := leftLowest.candidate leftFirst List.mem_cons_self
      have rightCandidate := rightLowest.candidate rightFirst List.mem_cons_self
      have same : leftFirst = rightFirst :=
        distinct leftFirst leftCandidate rightFirst rightCandidate
          (le_antisymm (leftLowest.head_le _ rightCandidate) (rightLowest.head_le _ leftCandidate))
      cases index with
      | zero =>
        cases leftFound
        cases rightFound
        exact same
      | succ index =>
        have rightTail := rightLowest.tail
        rw [← same] at rightTail
        exact inductionHypothesis leftLowest.tail rightTail
          (fun first inLeft second inRight => distinct first inLeft.1 second inRight.1)
          leftFound rightFound

end Pool

namespace Network

variable (network after : Network) (layer : Layer) (policy : Policy)

instance (id : SegmentId) : Decidable (network.HasPolicy layer policy id) :=
  inferInstanceAs (Decidable (_ ∧ _))

/-- The segments of a layer without explicit data that have a policy. -/
def served : List SegmentId :=
  (network.segmentsIn layer.name).filter fun id =>
    ¬ network.HasExplicit layer id ∧ network.HasPolicy layer policy id

/-- A subnet of the length and the range of a policy that shares no address with an
explicit subnet. -/
structure Offered (subnet : Subnet) : Prop where
  length : subnet.length = policy.subnetLength
  inside : ∃ range, Subnet.parse policy.range = .ok range ∧ range.covers subnet = true
  explicit : ∀ other ∈ network.segmentsIn layer.name, network.HasExplicit layer other →
    ∀ given, (after.segment other).subnet = some given → ¬ subnet.Meets given

/-- Segments of one policy share no address with those of another one. -/
def PoliciesApart (left right : Policy) : Prop :=
  ∀ id ∈ network.served layer left, ∀ other ∈ network.served layer right,
    ∀ first, (after.segment id).subnet = some first →
      ∀ second, (after.segment other).subnet = some second → ¬ first.Meets second

variable {network after layer policy}

/-- Subnets that a policy offers differ in where they start. -/
theorem Offered.eq_of_value {left right : Subnet}
    (leftOffered : Offered network after layer policy left)
    (rightOffered : Offered network after layer policy right)
    (same : left.network.value = right.network.value) : left = right := by
  obtain ⟨range, parsed, leftInside⟩ := leftOffered.inside
  obtain ⟨_, rightParsed, rightInside⟩ := rightOffered.inside
  cases parsed.symm.trans rightParsed
  have leftFamily := (Subnet.covers_iff.mp leftInside).1
  have rightFamily := (Subnet.covers_iff.mp rightInside).1
  exact Subnet.eq_of_parts (leftFamily.trans rightFamily.symm) same
    (leftOffered.length.trans rightOffered.length.symm)

section Wider

variable {wider : Policy} {range wide : Subnet} (parsed : Subnet.parse policy.range = .ok range)
  (wideParsed : Subnet.parse wider.range = .ok wide) (start : range.network = wide.network)
  (covers : wide.covers range = true) (length : policy.subnetLength = wider.subnetLength)

include parsed wideParsed covers length

/-- What a policy offers a policy with a wider range offers as well. -/
theorem Offered.of_wider {subnet : Subnet} (offered : Offered network after layer policy subnet) :
    Offered network after layer wider subnet := by
  obtain ⟨found, foundParsed, inside⟩ := offered.inside
  cases foundParsed.symm.trans parsed
  refine ⟨offered.length.trans length, ⟨wide, wideParsed, ?_⟩, offered.explicit⟩
  rw [Subnet.covers_iff] at covers inside ⊢
  exact ⟨inside.1.trans covers.1, by omega, by omega⟩

include start

/-- The lowest subnets that a policy offers are those of a policy whose range starts at
the same address and is wider. -/
theorem lowest_of_wider {count : Nat} {subnets : List Subnet}
    (lowest : Pool.Lowest {subnet | Offered network after layer policy subnet} count subnets) :
    Pool.Lowest {subnet | Offered network after layer wider subnet} count subnets where
  length := lowest.length
  candidate subnet listed :=
    (lowest.candidate subnet listed).of_wider parsed wideParsed covers length
  increasing := lowest.increasing
  lowest := by
    intro subnet listed other offered lower
    refine lowest.lowest subnet listed other ⟨offered.length.trans length.symm, ?_,
      offered.explicit⟩ lower
    obtain ⟨_, foundParsed, otherInside⟩ := offered.inside
    cases foundParsed.symm.trans wideParsed
    have candidate := lowest.candidate subnet listed
    obtain ⟨_, foundParsed, inside⟩ := candidate.inside
    cases foundParsed.symm.trans parsed
    refine ⟨range, parsed, ?_⟩
    rw [Subnet.covers_iff] at inside otherInside ⊢
    have family : other.family = range.family := by
      rw [otherInside.1]
      exact congrArg Address.family start.symm
    -- The two have one size, so the lower one ends before the other does.
    have size : other.size = subnet.size := by
      rw [Subnet.size_eq, Subnet.size_eq, Subnet.hostBits, Subnet.hostBits, Subnet.width,
        Subnet.width, family, inside.1, offered.length, candidate.length, length]
    rw [start] at inside ⊢
    exact ⟨family, otherInside.2.1, by omega⟩

end Wider

end Network

namespace Addressing

open Network

variable {config : Config} {layer : Layer} {network after : Network}

section Parts

variable {plans final : List SegmentPlan} {policy : Policy}

/-- A plan waits for a policy exactly when its segment has the policy and no explicit
data. -/
theorem Assignment.waits_iff (assignment : Assignment config layer network after plans final)
    (valid : config.validate = .ok ()) (member : layer ∈ config.layers) {plan : SegmentPlan}
    (listed : plan ∈ final) :
    Waits network layer policy plan ↔ ¬ network.HasExplicit layer plan.segment ∧
      network.HasPolicy layer policy plan.segment := by
  refine and_congr_right fun automatic => ?_
  obtain ⟨found, _, hasFound, waits⟩ := assignment.waits valid member listed automatic
  rw [waits.2]
  constructor
  · intro same
    refine ⟨hasFound.1, fun port onSegment => ?_⟩
    rw [hasFound.2 port onSegment, same]
  · intro hasPolicy
    obtain ⟨port, onSegment⟩ := List.exists_mem_of_ne_nil _ hasPolicy.1
    exact (hasFound.2 port onSegment).symm.trans (hasPolicy.2 port onSegment)

/-- The plans that wait for a policy are those of the segments that it serves. -/
theorem Assignment.map_segment_waits
    (assignment : Assignment config layer network after plans final)
    (valid : config.validate = .ok ()) (member : layer ∈ config.layers) :
    (final.filter (Waits network layer policy ·)).map (·.segment) =
      network.served layer policy := by
  let Served (id : SegmentId) : Prop :=
    ¬ network.HasExplicit layer id ∧ network.HasPolicy layer policy id
  calc (final.filter (Waits network layer policy ·)).map (·.segment)
      = (final.filter (Served ·.segment)).map (·.segment) := by
        congr 1
        apply List.filter_congr
        intro plan listed
        exact decide_eq_decide.mpr (assignment.waits_iff valid member listed)
    _ = (final.map (·.segment)).filter (Served ·) := by
        rw [List.filter_map]
        rfl
    _ = network.served layer policy := by
        rw [assignment.map_segment, assignment.segments, List.filter_filter]
        apply List.filter_congr
        intro id _
        rw [Bool.eq_iff_iff]
        simp only [Bool.and_eq_true, decide_eq_true_eq, Bool.not_eq_true',
          List.isEmpty_eq_false_iff]
        exact and_iff_left_of_imp fun served => served.2.1

/-- A subnet that explicit data gave is that of an explicit segment. -/
theorem Assignment.exists_explicit
    (assignment : Assignment config layer network after plans final) {given : Subnet}
    (listed : given ∈ plans.filterMap (·.subnet)) :
    ∃ id ∈ network.segmentsIn layer.name, network.HasExplicit layer id ∧
      (after.segment id).subnet = some given := by
  obtain ⟨request, asked, chosen⟩ := List.mem_filterMap.mp listed
  have explicit : network.HasExplicit layer request.segment :=
    (assignment.describes request asked).explicit.mp (by rw [chosen]; rfl)
  have planned : request.segment ∈ final.map (·.segment) := by
    rw [assignment.map_segment]
    exact List.mem_map_of_mem asked
  obtain ⟨plan, member, same⟩ := List.mem_map.mp planned
  have kept : plan ∈ plans :=
    assignment.completed.kept plan member fun _ _ waits => waits.1 (same ▸ explicit)
  have once : (plans.map (·.segment)).Nodup := by
    rw [← assignment.map_segment]
    exact assignment.once
  cases List.inj_on_of_nodup_map once kept asked same
  refine ⟨request.segment, ((assignment.mem_iff _).mp planned).1, explicit, ?_⟩
  rw [assignment.segment member chosen]
  rfl

/-- What a policy with fewer than `2 ^ 128` blocks serves apart from explicit subnets is
what it offers. -/
theorem Assignment.serves_iff (assignment : Assignment config layer network after plans final)
    (partitioned : network.Partitioned) {range : Subnet}
    (parsed : Subnet.parse policy.range = .ok range)
    (few : policy.subnetLength - range.length < 128) {subnet : Subnet} :
    Serves policy (plans.filterMap (·.subnet)) subnet ↔
      Offered network after layer policy subnet := by
  constructor
  · rintro ⟨found, foundParsed, inside, length, apart⟩
    cases foundParsed.symm.trans parsed
    refine ⟨length, ⟨range, parsed, inside⟩, fun other listed explicit given bound => ?_⟩
    exact apart few given (assignment.mem_explicit partitioned listed explicit bound)
  · rintro ⟨length, ⟨found, foundParsed, inside⟩, apart⟩
    refine ⟨found, foundParsed, inside, length, fun _ given listed => ?_⟩
    obtain ⟨other, otherListed, explicit, bound⟩ := assignment.exists_explicit listed
    exact apart other otherListed explicit given bound

/-- The subnets that plans of a policy have are the lowest ones that it offers. -/
theorem Assignment.lowest_of_deals
    (assignment : Assignment config layer network after plans final)
    (partitioned : network.Partitioned) {subnets : List Subnet}
    (same : (final.filter (Waits network layer policy ·)).map (·.subnet) = subnets.map some)
    (deals : Deals policy (plans.filterMap (·.subnet)) subnets) :
    Pool.Lowest {subnet | Offered network after layer policy subnet} subnets.length subnets := by
  cases subnets with
  | nil => exact Pool.lowest_nil
  | cons first rest =>
    have chosen : some first ∈ (final.filter (Waits network layer policy ·)).map (·.subnet) := by
      rw [same]
      exact List.mem_cons_self
    obtain ⟨plan, listed, chosen⟩ := List.mem_map.mp chosen
    obtain ⟨planned, waits⟩ := List.mem_filter.mp listed
    have waits : Waits network layer policy plan := of_decide_eq_true waits
    obtain ⟨range, parsed, _, length, _⟩ := deals.serve first List.mem_cons_self
    have few := assignment.few planned waits.1 chosen range.length
    rw [length] at few
    have candidates : {subnet | Serves policy (plans.filterMap (·.subnet)) subnet} =
        {subnet | Offered network after layer policy subnet} :=
      Set.ext fun subnet => assignment.serves_iff partitioned parsed few
    rw [← candidates]
    exact deals.lowest range parsed few

end Parts

/-- The segments without explicit data that have a policy get, in the order of the
network, the lowest subnets that the policy offers. -/
theorem lowest_subnets (valid : config.validate = .ok ()) (member : layer ∈ config.layers)
    (searched : Searched config network)
    (run : (assignSegments config layer).outcome network = (.ok (), after))
    {policy : Policy} (serving : policy ∈ layer.segmentPolicies) :
    ∃ subnets, (network.served layer policy).map (fun id => (after.segment id).subnet) =
        subnets.map some ∧
      Pool.Lowest {subnet | Offered network after layer policy subnet} subnets.length subnets := by
  obtain ⟨plans, final, assignment⟩ := assignment_of_outcome valid member run
  have partitioned := partitioned_of_searched valid searched
  obtain ⟨subnets, same, deals⟩ := assignment.completed.dealt policy serving
  have bound : ∀ plan ∈ final.filter (Waits network layer policy ·),
      (after.segment plan.segment).subnet = plan.subnet := by
    intro plan listed
    obtain ⟨planned, waits⟩ := List.mem_filter.mp listed
    obtain ⟨subnet, chosen, _⟩ :=
      assignment.completed.served policy serving plan planned (of_decide_eq_true waits)
    rw [assignment.segment planned chosen, chosen]
    rfl
  refine ⟨subnets, ?_, assignment.lowest_of_deals partitioned same deals⟩
  rw [← assignment.map_segment_waits valid member, List.map_map, ← same]
  exact List.map_congr_left bound

/-- What is given at a position of a list stands at that position. -/
theorem exists_of_map_eq {given : SegmentId → Option Subnet} {ids : List SegmentId}
    {subnets : List Subnet} (same : ids.map given = subnets.map some) {index : Nat}
    {id : SegmentId} (found : ids[index]? = some id) :
    ∃ subnet, subnets[index]? = some subnet ∧ given id = some subnet := by
  have both : (ids.map given)[index]? = (subnets.map some)[index]? := by rw [same]
  rw [List.getElem?_map, List.getElem?_map, found] at both
  obtain ⟨subnet, there, equal⟩ := Option.map_eq_some_iff.mp both.symm
  exact ⟨subnet, there, equal.symm⟩

section Policies

variable (valid : config.validate = .ok ()) (member : layer ∈ config.layers)
  (searched : Searched config network)
  (run : (assignSegments config layer).outcome network = (.ok (), after)) {left right : Policy}
  (leftServing : left ∈ layer.segmentPolicies) (rightServing : right ∈ layer.segmentPolicies)
  {leftRange rightRange : Subnet} (leftParsed : Subnet.parse left.range = .ok leftRange)
  (rightParsed : Subnet.parse right.range = .ok rightRange)

include valid member searched run

/-- The subnet of a segment is one that its policy offers. -/
theorem offered_of_served {policy : Policy} (serving : policy ∈ layer.segmentPolicies)
    {id : SegmentId} (listed : id ∈ network.served layer policy) {subnet : Subnet}
    (bound : (after.segment id).subnet = some subnet) :
    Offered network after layer policy subnet := by
  obtain ⟨subnets, same, lowest⟩ := lowest_subnets valid member searched run serving
  have listed := List.mem_map_of_mem (f := fun id => (after.segment id).subnet) listed
  rw [same, bound] at listed
  obtain ⟨_, found, same⟩ := List.mem_map.mp listed
  cases same
  exact lowest.candidate subnet found

include leftServing rightServing leftParsed rightParsed

/-- Policies whose ranges start at the same address give the same subnets, one segment
after the other. -/
theorem same_subnet_of_start (start : leftRange.network = rightRange.network)
    (length : left.subnetLength = right.subnetLength) {index : Nat} {id other : SegmentId}
    (leftServed : (network.served layer left)[index]? = some id)
    (rightServed : (network.served layer right)[index]? = some other) :
    ∃ subnet, (after.segment id).subnet = some subnet ∧
      (after.segment other).subnet = some subnet := by
  wlog wider : rightRange.length ≤ leftRange.length
      generalizing left right leftRange rightRange id other
  · obtain ⟨subnet, first, second⟩ := this rightServing leftServing rightParsed leftParsed
      start.symm length.symm rightServed leftServed (le_of_not_ge wider)
    exact ⟨subnet, second, first⟩
  have covers : rightRange.covers leftRange = true := by
    refine Subnet.covers_of_meets ⟨rightRange.network, rightRange.contains_network, ?_⟩ wider
    rw [← start]
    exact leftRange.contains_network
  obtain ⟨leftSubnets, leftSame, leftLowest⟩ :=
    lowest_subnets valid member searched run leftServing
  obtain ⟨rightSubnets, rightSame, rightLowest⟩ :=
    lowest_subnets valid member searched run rightServing
  obtain ⟨first, firstFound, firstBound⟩ := exists_of_map_eq leftSame leftServed
  obtain ⟨second, secondFound, secondBound⟩ := exists_of_map_eq rightSame rightServed
  have also := lowest_of_wider leftParsed rightParsed start covers length leftLowest
  have same : first = second := also.eq_of_getElem? rightLowest
    (fun _ offered _ otherOffered => offered.eq_of_value otherOffered) firstFound secondFound
  exact ⟨first, firstBound, same ▸ secondBound⟩

/-- Policies whose ranges share no address are apart. -/
theorem policiesApart_of_ranges (apart : ¬ leftRange.Meets rightRange) :
    PoliciesApart network after layer left right := by
  intro id listed other otherListed first bound second otherBound meets
  obtain ⟨_, parsed, inside⟩ :=
    (offered_of_served valid member searched run leftServing listed bound).inside
  cases parsed.symm.trans leftParsed
  obtain ⟨_, parsed, otherInside⟩ :=
    (offered_of_served valid member searched run rightServing otherListed otherBound).inside
  cases parsed.symm.trans rightParsed
  exact apart ((meets.of_covers inside).symm.of_covers otherInside).symm

end Policies

end Addressing

namespace Tenants

open Addressing Network

/-- A layer of three policies.  The ranges of the first two start at the same address,
and the third one is apart from both. -/
def config : Config where
  name := "tenants"
  layers := [layer]
  nodeClasses := [{ name := "host", interfacePolicies := ["office"] },
    { name := "server", interfacePolicies := ["lab"] },
    { name := "guest", interfacePolicies := ["lobby"] }]
where
  /-- A policy of one subnet. -/
  office : Policy := { name := "office", range := "10.0.0.0/24", subnetLength := 24 }
  /-- A policy of two subnets. -/
  lab : Policy := { name := "lab", range := "10.0.0.0/23", subnetLength := 24 }
  /-- A policy of many subnets. -/
  lobby : Policy := { name := "lobby", range := "10.1.0.0/16", subnetLength := 24 }
  /-- The layer of all connections. -/
  layer : Layer := { name := "ip", connectsByDefault := true, policies := [office, lab, lobby] }

/-- Two nodes of each policy, which are connected. -/
def topology : Topology where
  nodes := [{ name := "a", labels := ["host"] }, { name := "b", labels := ["host"] },
    { name := "c", labels := ["server"] }, { name := "d", labels := ["server"] },
    { name := "e", labels := ["guest"] }, { name := "f", labels := ["guest"] }]
  edges := [{ source := "a", target := "b" }, { source := "c", target := "d" },
    { source := "e", target := "f" }]

/-- The network of the topology. -/
def built : Network := (ofTopology config topology).toOption.getD {}

/-- The network after resolution. -/
def resolved : Network := ((resolve config {}).outcome built).2

/-- The network with its segments. -/
def searched : Network := ((Segments.addAll config).outcome resolved).2

/-- The network with the addresses of its layer. -/
def addressed : Network := ((assignSegments config config.layer).outcome searched).2

/-- The configuration is valid. -/
theorem config_valid : config.validate = .ok () := by decide +kernel

theorem built_eq : ofTopology config topology = .ok built :=
  Outcome.eq_ok_of_isOk {} (by decide +kernel)

theorem resolved_eq : (resolve config {}).outcome built = (.ok (), resolved) :=
  Stage.outcome_eq_ok (by decide +kernel)

theorem searched_searched : Searched config searched :=
  ⟨topology, {}, built, resolved, built_eq, resolved_eq, Stage.outcome_eq_ok (by decide +kernel)⟩

/-- Addresses are assigned without error. -/
theorem addressed_eq :
    (assignSegments config config.layer).outcome searched = (.ok (), addressed) :=
  Stage.outcome_eq_ok (by decide +kernel)

/-- The range of the first policy. -/
def officeRange : Subnet := Subnet.around (Address.ofNat .v4 0x0A000000) 24 (by decide)

/-- The range of the second policy. -/
def labRange : Subnet := Subnet.around (Address.ofNat .v4 0x0A000000) 23 (by decide)

/-- The range of the third policy. -/
def lobbyRange : Subnet := Subnet.around (Address.ofNat .v4 0x0A010000) 16 (by decide)

/-- The first and the third policy are apart. -/
theorem policiesApart_of_lobby :
    Subnet.parse config.office.range = .ok officeRange ∧
      Subnet.parse config.lobby.range = .ok lobbyRange ∧ ¬ officeRange.Meets lobbyRange ∧
      searched.served config.layer config.office = [0] ∧
      searched.served config.layer config.lobby = [2] ∧
      (addressed.segment 0).subnet.map Subnet.text = some "10.0.0.0/24" ∧
      (addressed.segment 2).subnet.map Subnet.text = some "10.1.0.0/24" ∧
      PoliciesApart searched addressed config.layer config.office config.lobby := by
  have officeParsed : Subnet.parse config.office.range = .ok officeRange := by decide +kernel
  have lobbyParsed : Subnet.parse config.lobby.range = .ok lobbyRange := by decide +kernel
  have apart : ¬ officeRange.Meets lobbyRange := by decide +kernel
  exact ⟨officeParsed, lobbyParsed, apart, by decide +kernel, by decide +kernel,
    by decide +kernel, by decide +kernel,
    policiesApart_of_ranges config_valid List.mem_cons_self searched_searched addressed_eq
      (by decide +kernel) (by decide +kernel) officeParsed lobbyParsed apart⟩

/-- The first and the second policy are not apart, although all addresses have been
assigned: both give their first segment the subnet where their ranges start. -/
theorem not_policiesApart_of_lab :
    config.validate = .ok () ∧ config.layer ∈ config.layers ∧ Searched config searched ∧
      (assignSegments config config.layer).outcome searched = (.ok (), addressed) ∧
      config.office ∈ config.layer.segmentPolicies ∧ config.lab ∈ config.layer.segmentPolicies ∧
      config.office ≠ config.lab ∧
      ¬ PoliciesApart searched addressed config.layer config.office config.lab := by
  have office : config.office ∈ config.layer.segmentPolicies := by decide +kernel
  have lab : config.lab ∈ config.layer.segmentPolicies := by decide +kernel
  refine ⟨config_valid, List.mem_cons_self, searched_searched, addressed_eq, office, lab,
    by decide, fun apart => ?_⟩
  have officeParsed : Subnet.parse config.office.range = .ok officeRange := by decide +kernel
  have labParsed : Subnet.parse config.lab.range = .ok labRange := by decide +kernel
  have officeServed : searched.served config.layer config.office = [0] := by decide +kernel
  have labServed : searched.served config.layer config.lab = [1] := by decide +kernel
  obtain ⟨subnet, first, second⟩ := same_subnet_of_start config_valid List.mem_cons_self
    searched_searched addressed_eq office lab officeParsed labParsed (by decide) rfl
    (show _ = some 0 from congrArg (·[0]?) officeServed)
    (show _ = some 1 from congrArg (·[0]?) labServed)
  refine apart 0 ?_ 1 ?_ subnet first subnet second ⟨subnet.network, ?_, ?_⟩
  · rw [officeServed]
    exact List.mem_cons_self
  · rw [labServed]
    exact List.mem_cons_self
  · exact subnet.contains_network
  · exact subnet.contains_network

end Tenants

end TopoPlan
