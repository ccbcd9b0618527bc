import Mathlib.Data.List.Nodup
import TopoPlan.Config.Validity
import TopoPlan.Proofs.Outcomes

/-!
# Layers of valid configurations

In a valid configuration no two layers have one name, and no two policies, also not
in different layers.  So a name leads to the one definition that has it.  The ranges of
policies and of the management layer can be read.
-/

namespace TopoPlan.Config

/-- A condition that was not refused does not hold. -/
theorem refuseIf_eq_ok {condition : Bool} {fault : ConfigFault}
    (accepted : refuseIf condition fault = .ok ()) : condition = false := by
  cases condition with
  | false => rfl
  | true => cases accepted

/-- Entries with names that no earlier entry took add their names, which stay different. -/
theorem names_of_foldlM {α : Type} (name : α → String)
    {step : List String → α → Except ConfigFault (List String)} {entries : List α}
    {taken final : List String}
    (each : ∀ taken entry next, step taken entry = .ok next →
      name entry ∉ taken ∧ next = taken ++ [name entry])
    (run : entries.foldlM step taken = .ok final) (once : taken.Nodup) :
    final = taken ++ entries.map name ∧ final.Nodup := by
  let motive (done : List α) (current : List String) : Prop :=
    current = taken ++ done.map name ∧ current.Nodup
  refine Outcome.foldlM_induction (motive := motive) run ⟨by simp, once⟩ ?_
  rintro done entry current next _ ⟨names, once⟩ step
  obtain ⟨fresh, rfl⟩ := each current entry next step
  refine ⟨by simp [names], ?_⟩
  rw [← List.concat_eq_append]
  exact once.concat fresh

/-- Checked policies add their names, which stay different. -/
theorem checkPolicies_names {taken names : List String} {policies : List Policy}
    (run : checkPolicies taken policies = .ok names) (once : taken.Nodup) :
    names = taken ++ policies.map (·.name) ∧ names.Nodup := by
  refine names_of_foldlM (·.name) (fun taken policy next step => ?_) run once
  obtain ⟨_, new, step⟩ := Outcome.bind_eq_ok.mp step
  obtain ⟨_, _, step⟩ := Outcome.bind_eq_ok.mp step
  cases step
  exact ⟨by simpa using refuseIf_eq_ok new, rfl⟩

/-- Layers that were checked have different names, and so have their policies. -/
theorem checkLayers_names {layers : List Layer} (run : checkLayers layers = .ok ()) :
    (layers.map (·.name)).Nodup ∧
      (layers.flatMap fun layer => layer.policies.map (·.name)).Nodup := by
  obtain ⟨final, run, _⟩ := Outcome.bind_eq_ok.mp run
  let motive (done : List Layer) (taken : List String × List String) : Prop :=
    (taken.1 = done.map (·.name) ∧ taken.1.Nodup) ∧
      taken.2 = (done.flatMap fun layer => layer.policies.map (·.name)) ∧ taken.2.Nodup
  have names : motive layers final := by
    refine Outcome.foldlM_induction (motive := motive) run
      ⟨⟨rfl, List.nodup_nil⟩, rfl, List.nodup_nil⟩ ?_
    rintro done layer taken next _ ⟨⟨names, once⟩, policyNames, policiesOnce⟩ step
    obtain ⟨_, _, step⟩ := Outcome.bind_eq_ok.mp step
    obtain ⟨_, new, step⟩ := Outcome.bind_eq_ok.mp step
    obtain ⟨policies, checked, step⟩ := Outcome.bind_eq_ok.mp step
    cases step
    have fresh : layer.name ∉ taken.1 := by simpa using refuseIf_eq_ok new
    obtain ⟨more, moreOnce⟩ := checkPolicies_names checked policiesOnce
    refine ⟨⟨by simp [names], List.nodup_append.mpr ⟨once, List.pairwise_singleton _ _, ?_⟩⟩,
      by simp [more, policyNames], moreOnce⟩
    rintro name old _ last rfl
    rw [List.mem_singleton.mp last] at old
    exact fresh old
  obtain ⟨⟨names, once⟩, policyNames, policiesOnce⟩ := names
  exact ⟨names ▸ once, policyNames ▸ policiesOnce⟩

variable {config : Config}

/-- The layers of a valid configuration pass their check. -/
theorem checkLayers_of_validate (valid : config.validate = .ok ()) :
    checkLayers config.layers = .ok () := by
  obtain ⟨_, run, _⟩ := Outcome.bind_eq_ok.mp valid
  exact run

/-- No two layers have one name. -/
theorem layer_eq_of_name (valid : config.validate = .ok ()) {left right : Layer}
    (leftMember : left ∈ config.layers) (rightMember : right ∈ config.layers)
    (same : left.name = right.name) : left = right :=
  List.inj_on_of_nodup_map (checkLayers_names (checkLayers_of_validate valid)).1
    leftMember rightMember same

/-- No two policies of a layer have one name. -/
theorem policyNames_nodup (valid : config.validate = .ok ()) {layer : Layer}
    (member : layer ∈ config.layers) : (layer.policies.map (·.name)).Nodup :=
  (List.nodup_flatMap.mp (checkLayers_names (checkLayers_of_validate valid)).2).1 layer member

/-- Every policy of a valid configuration passes the check of policies. -/
theorem checkPolicy_of_validate (valid : config.validate = .ok ()) {layer : Layer}
    (member : layer ∈ config.layers) {policy : Policy} (listed : policy ∈ layer.policies) :
    checkPolicy policy = .ok () := by
  obtain ⟨_, run, _⟩ := Outcome.bind_eq_ok.mp (checkLayers_of_validate valid)
  obtain ⟨_, _, step⟩ := Outcome.exists_step_of_foldlM run layer member
  obtain ⟨_, _, step⟩ := Outcome.bind_eq_ok.mp step
  obtain ⟨_, _, step⟩ := Outcome.bind_eq_ok.mp step
  obtain ⟨_, policies, _⟩ := Outcome.bind_eq_ok.mp step
  obtain ⟨_, _, step⟩ := Outcome.exists_step_of_foldlM policies policy listed
  obtain ⟨_, _, step⟩ := Outcome.bind_eq_ok.mp step
  obtain ⟨_, checked, _⟩ := Outcome.bind_eq_ok.mp step
  exact checked

/-- The range of a policy can be read, and subnets of segments are not longer than an
address. -/
theorem range_of_validate (valid : config.validate = .ok ()) {layer : Layer}
    (member : layer ∈ config.layers) {policy : Policy} (listed : policy ∈ layer.policies) :
    ∃ range, Subnet.parse policy.range = .ok range ∧
      (policy.kind = .ip → policy.subnetLength ≤ range.width) := by
  have checked := checkPolicy_of_validate valid member listed
  unfold checkPolicy at checked
  split at checked
  case h_1 => cases checked
  case h_2 range parsed =>
    refine ⟨range, parsed, fun segments => ?_⟩
    simpa [segments] using refuseIf_eq_ok checked

/-- The range of the management layer can be read. -/
theorem managementRange_of_validate (valid : config.validate = .ok ())
    {management : ManagementLayer} (configured : config.management = some management) :
    ∃ range, Subnet.parse management.range = .ok range := by
  obtain ⟨_, _, rest⟩ := Outcome.bind_eq_ok.mp valid
  obtain ⟨_, checked, _⟩ := Outcome.bind_eq_ok.mp rest
  rw [configured] at checked
  obtain ⟨_, _, checked⟩ := Outcome.bind_eq_ok.mp checked
  split at checked
  case h_1 => cases checked
  case h_2 range parsed => exact ⟨range, parsed⟩

/-- A policy that is found by a name belongs to the layer found with it. -/
theorem mem_of_policy? {name : String} {layer : Layer} {policy : Policy}
    (found : config.policy? name = some (layer, policy)) :
    layer ∈ config.layers ∧ policy ∈ layer.policies ∧ policy.name = name := by
  obtain ⟨other, member, step⟩ := List.exists_of_findSome?_eq_some found
  obtain ⟨definition, search, same⟩ := Option.map_eq_some_iff.mp step
  cases same
  exact ⟨member, List.mem_of_find?_eq_some search, by simpa using List.find?_some search⟩

end TopoPlan.Config
