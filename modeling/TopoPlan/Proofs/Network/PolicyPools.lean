import TopoPlan.Proofs.Network.SettledHosts

/-!
# Pools of policies

A valid configuration has ranges that can be read, and pools for its loopbacks and its
management interfaces.  The pool of a policy for segments can only be made where the range
is no longer than the subnets, which is not checked beforehand: `layerPools_of_validate`
says when an assignment has its pools and what it fails with otherwise.
-/

namespace TopoPlan

namespace Pool

variable {name : String} {range : Subnet} {length : Nat}

/-- A range holds blocks of every length from its own one on. -/
theorem exists_ofRange (lower : range.length ≤ length) (upper : length ≤ range.width) :
    ∃ pool, ofRange name range length = .ok pool := by
  rw [ofRange, dif_pos lower, dif_pos upper]
  exact ⟨_, rfl⟩

/-- A range holds no blocks that are larger than itself. -/
theorem ofRange_of_shorter (shorter : length < range.length) :
    ofRange name range length =
      .error (.invalidAddress range.text (.poolTooSmall name length)) := by
  rw [ofRange, dif_neg (Nat.not_le.mpr shorter)]

/-- Blocks of a pool are not larger than its range. -/
theorem le_of_ofRange {pool : Pool} (made : ofRange name range length = .ok pool) :
    range.length ≤ length := by
  by_contra shorter
  rw [ofRange_of_shorter (Nat.not_le.mp shorter)] at made
  cases made

end Pool

/-- Whether the range of a policy can be read and is no longer than the subnets. -/
def Policy.fits (policy : Policy) : Bool :=
  match Subnet.parse policy.range with
  | .ok range => range.length ≤ policy.subnetLength
  | .error _ => false

/-- A policy fits exactly when its subnets are not larger than its range. -/
theorem Policy.fits_iff {policy : Policy} {range : Subnet}
    (parsed : Subnet.parse policy.range = .ok range) :
    policy.fits = true ↔ range.length ≤ policy.subnetLength := by
  simp [fits, parsed]

namespace Addressing

variable {config : Config} {layer : Layer}

/-- There is a pool of single addresses for every range. -/
theorem exists_hostPool (name : String) (range : Subnet) :
    ∃ pool, hostPool name range = .ok pool := by
  obtain ⟨fresh, new⟩ : ∃ fresh, Pool.ofRange name range range.width = .ok fresh :=
    Pool.exists_ofRange range.length_le_width (Nat.le_refl range.width)
  obtain ⟨started, reserved, binds⟩ :=
    (Pool.sound_of_ofRange new).reserveAddress range.network
  have inside : started.lastIndex < started.size := by
    have succ := started.lastIndex_succ
    omega
  have last : started.last = .ok (started.block started.lastIndex) := Pool.get_eq_ok inside
  obtain ⟨ended, _, more, _⟩ := binds.sound.reserve (started.block started.lastIndex)
  unfold hostPool
  simp only [Outcome.bind_eq_ok]
  by_cases broadcast : range.family = .v4 ∧ 1 < started.length
  · refine ⟨ended, fresh, new, started, reserved, ?_⟩
    rw [if_pos (by simpa using broadcast)]
    exact Outcome.bind_eq_ok.mpr ⟨_, last, more⟩
  · refine ⟨started, fresh, new, started, reserved, ?_⟩
    rw [if_neg (by simpa using broadcast)]
    rfl

/-- A policy whose range is no longer than its subnets has a pool. -/
theorem exists_pool_of_fits (valid : config.validate = .ok ()) (member : layer ∈ config.layers)
    {policy : Policy} (serves : policy ∈ layer.segmentPolicies) (fits : policy.fits = true) :
    ∃ range pool, readSubnet policy.range = .ok range ∧
      Pool.ofRange policy.name range policy.subnetLength = .ok pool := by
  obtain ⟨listed, kind⟩ := List.mem_filter.mp serves
  obtain ⟨range, parsed, bound⟩ := Config.range_of_validate valid member listed
  obtain ⟨pool, made⟩ : ∃ pool, Pool.ofRange policy.name range policy.subnetLength = .ok pool :=
    Pool.exists_ofRange ((Policy.fits_iff parsed).mp fits) (bound (by simpa using kind))
  exact ⟨range, pool, SegmentPlan.readSubnet_of_parse parsed, made⟩

/-- The pools of a layer are there exactly when no range is longer than the subnets. -/
theorem exists_poolsOf_iff (valid : config.validate = .ok ()) (member : layer ∈ config.layers) :
    (∃ pools, poolsOf layer = .ok pools) ↔
      ∀ policy ∈ layer.segmentPolicies, policy.fits = true := by
  constructor
  · rintro ⟨pools, run⟩ policy serves
    obtain ⟨_, _, step⟩ := Outcome.exists_step_of_foldlM run policy serves
    obtain ⟨range, read, step⟩ := Outcome.bind_eq_ok.mp step
    obtain ⟨pool, made, _⟩ := Outcome.bind_eq_ok.mp step
    exact (Policy.fits_iff (SegmentPlan.readSubnet_eq_ok read)).mpr (Pool.le_of_ofRange made)
  · intro fits
    refine Outcome.exists_foldlM (fun policy serves pools => ?_) _
    obtain ⟨range, pool, read, made⟩ :=
      exists_pool_of_fits valid member serves (fits policy serves)
    exact ⟨pools.insert policy.name pool,
      Outcome.bind_eq_ok.mpr ⟨range, read, Outcome.bind_eq_ok.mpr ⟨pool, made, rfl⟩⟩⟩

/-- The first policy whose range is longer than its subnets is what the pools fail with. -/
theorem poolsOf_eq_error (valid : config.validate = .ok ()) (member : layer ∈ config.layers)
    {policy : Policy}
    (first : layer.segmentPolicies.find? (fun policy => !policy.fits) = some policy) :
    ∃ range, readSubnet policy.range = .ok range ∧ poolsOf layer =
      .error (.invalidAddress range.text (.poolTooSmall policy.name policy.subnetLength)) := by
  obtain ⟨misfit, done, rest, split, before⟩ := List.find?_eq_some_iff_append.mp first
  have serves : ∀ other ∈ done ++ policy :: rest, other ∈ layer.segmentPolicies :=
    fun other listed => split ▸ listed
  have listed := serves policy (by simp)
  obtain ⟨range, parsed, _⟩ :=
    Config.range_of_validate valid member (List.mem_filter.mp listed).1
  have shorter : policy.subnetLength < range.length := by
    rw [← Nat.not_le, ← Policy.fits_iff parsed]
    simpa using misfit
  have read := SegmentPlan.readSubnet_of_parse parsed
  refine ⟨range, read, ?_⟩
  rw [poolsOf, split]
  refine Outcome.foldlM_eq_error (fun other listed pools => ?_) (fun pools => ?_) _
  · obtain ⟨range, pool, read, made⟩ := exists_pool_of_fits valid member
      (serves other (List.mem_append_left _ listed)) (by simpa using before other listed)
    exact ⟨pools.insert other.name pool,
      Outcome.bind_eq_ok.mpr ⟨range, read, Outcome.bind_eq_ok.mpr ⟨pool, made, rfl⟩⟩⟩
  · rw [read]
    change (Pool.ofRange policy.name range policy.subnetLength >>= _) = _
    rw [Pool.ofRange_of_shorter shorter]
    rfl

/-- Without its pools an assignment fails at once. -/
theorem assignSegments_of_poolsOf {error : CompileError} (failed : poolsOf layer = .error error)
    (network : Network) :
    (assignSegments config layer).outcome network = (.error error, network) := by
  have incomplete : completePlans network config layer = .error error := by
    rw [completePlans, failed]
    rfl
  rw [assignSegments, Stage.outcome_get_bind, Stage.outcome_bind, Stage.outcome_ofExcept,
    incomplete]

/-- What is known of the pools of a layer whatever the network: the ranges can be read,
loopbacks have their pools, and segments have theirs exactly when no range is longer than the
subnets.  Otherwise the first such policy is what every assignment fails with. -/
structure LayerPools (config : Config) (layer : Layer) : Prop where
  ranges : ∀ policy ∈ layer.policies, ∃ range, readSubnet policy.range = .ok range
  loopbacks : ∀ policy ∈ layer.loopbackPolicies, ∃ range pool,
    readSubnet policy.range = .ok range ∧ hostPool policy.name range = .ok pool
  segments : (∃ pools, poolsOf layer = .ok pools) ↔
    ∀ policy ∈ layer.segmentPolicies, policy.fits = true
  misfit : ∀ policy, layer.segmentPolicies.find? (fun policy => !policy.fits) = some policy →
    ∃ range, readSubnet policy.range = .ok range ∧ ∀ network,
      (assignSegments config layer).outcome network =
        (.error (.invalidAddress range.text (.poolTooSmall policy.name policy.subnetLength)),
          network)

/-- The pools of the layers and of the management layer of a valid configuration. -/
theorem layerPools_of_validate (valid : config.validate = .ok ()) :
    (∀ layer ∈ config.layers, LayerPools config layer) ∧
      ∀ management ∈ config.management, ∃ range pool,
        readSubnet management.range = .ok range ∧ hostPool management.name range = .ok pool := by
  refine ⟨fun layer member => ?_, fun management configured => ?_⟩
  · have ranges : ∀ policy ∈ layer.policies, ∃ range, readSubnet policy.range = .ok range := by
      intro policy listed
      obtain ⟨range, parsed, _⟩ := Config.range_of_validate valid member listed
      exact ⟨range, SegmentPlan.readSubnet_of_parse parsed⟩
    refine ⟨ranges, fun policy serves => ?_, exists_poolsOf_iff valid member,
      fun policy first => ?_⟩
    · obtain ⟨range, read⟩ := ranges policy (List.mem_filter.mp serves).1
      obtain ⟨pool, made⟩ := exists_hostPool policy.name range
      exact ⟨range, pool, read, made⟩
    · obtain ⟨range, read, failed⟩ := poolsOf_eq_error valid member first
      exact ⟨range, read, assignSegments_of_poolsOf failed⟩
  · obtain ⟨range, parsed⟩ := Config.managementRange_of_validate valid configured
    obtain ⟨pool, made⟩ := exists_hostPool management.name range
    exact ⟨range, pool, SegmentPlan.readSubnet_of_parse parsed, made⟩

end Addressing

namespace Cramped

open Addressing

/-- A layer whose policy wants subnets that are larger than its range. -/
def layer : Layer where
  name := "ip"
  policies := [{ name := "lan", range := "10.0.0.0/24", subnetLength := 16 }]

/-- A layer with ranges that serve segments and loopbacks. -/
def roomy : Layer where
  name := "ip6"
  policies := [{ name := "lan6", range := "fd00::/48", subnetLength := 64 },
    { name := "lo", kind := .loopback, range := "fd00:1::/64" }]

/-- The two layers and management interfaces. -/
def config : Config where
  name := "cramped"
  layers := [layer, roomy]
  management := some { name := "mgmt", range := "172.20.0.0/24" }

/-- One layer has its pools and the other one has not. -/
theorem layerPools_of_both :
    config.validate = .ok () ∧ layer.segmentPolicies.all (·.fits) = false ∧
      roomy.segmentPolicies.all (·.fits) = true ∧ LayerPools config layer ∧
      LayerPools config roomy ∧ ∃ range pool, readSubnet "172.20.0.0/24" = .ok range ∧
        hostPool "mgmt" range = .ok pool := by
  have valid : config.validate = .ok () := by decide +kernel
  have pools := layerPools_of_validate valid
  exact ⟨valid, by decide +kernel, by decide +kernel, pools.1 layer (by simp [config]),
    pools.1 roomy (by simp [config]), pools.2 { name := "mgmt", range := "172.20.0.0/24" } rfl⟩

/-- The configuration is valid, and no network can be given addresses in its first layer. -/
theorem unusable_lan :
    config.validate = .ok () ∧ layer ∈ config.layers ∧ ∀ network,
      (assignSegments config layer).outcome network =
        (.error (.invalidAddress "10.0.0.0/24" (.poolTooSmall "lan" 16)), network) := by
  have failed : poolsOf layer =
      .error (.invalidAddress "10.0.0.0/24" (.poolTooSmall "lan" 16)) := by decide +kernel
  exact ⟨by decide +kernel, by simp [config], assignSegments_of_poolsOf failed⟩

end Cramped

end TopoPlan
