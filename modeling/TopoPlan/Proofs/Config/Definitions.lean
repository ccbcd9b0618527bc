import TopoPlan.Proofs.Config.Layers

/-!
# Classes and rules of valid configurations

In a valid configuration no two classes of one kind have one name, every declaration
of members names classes of one kind, and every rule has what its kind needs.
-/

namespace TopoPlan

/-- A declaration of members names a class. -/
def MemberClass.Specifies (declared : MemberClass) (kind : ClassKind) (className : String) : Prop :=
  ∃ names, declared.target = .ok (kind, names) ∧ className ∈ names

namespace Config

variable {config : Config}

/-- The rules of a valid configuration pass their check. -/
theorem checkRules_of_validate (valid : config.validate = .ok ()) :
    checkRules config = .ok () := by
  obtain ⟨_, _, rest⟩ := Outcome.bind_eq_ok.mp valid
  obtain ⟨_, _, rest⟩ := Outcome.bind_eq_ok.mp rest
  obtain ⟨_, run, _⟩ := Outcome.bind_eq_ok.mp rest
  exact run

/-- The classes of a valid configuration pass their check. -/
theorem checkClasses_of_validate (valid : config.validate = .ok ()) :
    checkClasses config = .ok () := by
  obtain ⟨_, _, rest⟩ := Outcome.bind_eq_ok.mp valid
  obtain ⟨_, _, rest⟩ := Outcome.bind_eq_ok.mp rest
  obtain ⟨_, _, run⟩ := Outcome.bind_eq_ok.mp rest
  exact run

/-- Every rule of a valid configuration passes the check of rules. -/
theorem checkRule_of_validate (valid : config.validate = .ok ()) {rule : ParameterRule}
    (listed : rule ∈ config.rules) : checkRule config rule = .ok () := by
  obtain ⟨_, run, _⟩ := Outcome.bind_eq_ok.mp (checkRules_of_validate valid)
  obtain ⟨_, _, step⟩ := Outcome.exists_step_of_foldlM run rule listed
  obtain ⟨_, _, step⟩ := Outcome.bind_eq_ok.mp step
  obtain ⟨_, checked, _⟩ := Outcome.bind_eq_ok.mp step
  exact checked

/-- No two rules have one name. -/
theorem ruleNames_nodup (valid : config.validate = .ok ()) :
    (config.rules.map (·.name)).Nodup := by
  obtain ⟨final, run, _⟩ := Outcome.bind_eq_ok.mp (checkRules_of_validate valid)
  obtain ⟨names, once⟩ := names_of_foldlM (·.name) (fun taken rule next step => by
    obtain ⟨_, new, step⟩ := Outcome.bind_eq_ok.mp step
    obtain ⟨_, _, step⟩ := Outcome.bind_eq_ok.mp step
    cases step
    exact ⟨by simpa using refuseIf_eq_ok new, rfl⟩) run List.nodup_nil
  rwa [names, List.nil_append] at once

/-- Names that were checked are different. -/
theorem checkClassNames_nodup {kind : ClassKind} {names : List String}
    (run : checkClassNames kind names = .ok ()) : names.Nodup := by
  obtain ⟨final, run, _⟩ := Outcome.bind_eq_ok.mp run
  obtain ⟨same, once⟩ := names_of_foldlM (fun name : String => name)
    (fun taken name next step => by
      obtain ⟨_, _, step⟩ := Outcome.bind_eq_ok.mp step
      obtain ⟨_, new, step⟩ := Outcome.bind_eq_ok.mp step
      cases step
      exact ⟨by simpa using refuseIf_eq_ok new, rfl⟩) run List.nodup_nil
  rwa [same, List.nil_append, List.map_id'] at once

/-- No two classes of one kind have one name. -/
theorem classNames_nodup (valid : config.validate = .ok ()) (kind : ClassKind) :
    ((config.classTemplates kind).map (·.1)).Nodup := by
  obtain ⟨_, names, _⟩ := Outcome.bind_eq_ok.mp (checkClasses_of_validate valid)
  exact checkClassNames_nodup (Outcome.forM_eq_ok names kind (by cases kind <;> decide))

/-- No two network classes have one name. -/
theorem networkClassNames_nodup (valid : config.validate = .ok ()) :
    (config.networkClasses.map (·.name)).Nodup := by
  have names := classNames_nodup valid .network
  rw [classTemplates, List.map_map] at names
  exact names

/-- No two node classes have one name. -/
theorem nodeClassNames_nodup (valid : config.validate = .ok ()) :
    (config.nodeClasses.map (·.name)).Nodup := by
  have names := classNames_nodup valid .node
  rw [classTemplates, List.map_map] at names
  exact names

/-- No two connection classes have one name. -/
theorem connectionClassNames_nodup (valid : config.validate = .ok ()) :
    (config.connectionClasses.map (·.name)).Nodup := by
  have names := classNames_nodup valid .connection
  rw [classTemplates, List.map_map] at names
  exact names

/-- No two interface classes have one name. -/
theorem interfaceClassNames_nodup (valid : config.validate = .ok ()) :
    (config.interfaceClasses.map (·.name)).Nodup := by
  have names := classNames_nodup valid .interface
  rw [classTemplates, List.map_map] at names
  exact names

/-- No two group classes have one name. -/
theorem groupClassNames_nodup (valid : config.validate = .ok ()) :
    (config.groupClasses.map (·.name)).Nodup := by
  have names := classNames_nodup valid .group
  rw [classTemplates, List.map_map] at names
  exact names

/-- Among definitions of different names, a look-up by the name of one finds it. -/
theorem find?_of_names {α : Type} {name : α → String} {definitions : List α}
    (once : (definitions.map name).Nodup) {definition : α} (listed : definition ∈ definitions) :
    definitions.find? (name · == name definition) = some definition := by
  have some : (definitions.find? (name · == name definition)).isSome :=
    List.find?_isSome.mpr ⟨definition, listed, beq_self_eq_true (name definition)⟩
  obtain ⟨found, look⟩ := Option.isSome_iff_exists.mp some
  rw [look, List.inj_on_of_nodup_map once (List.mem_of_find?_eq_some look) listed
    (by simpa using List.find?_some look)]

/-- Among definitions of different names, look-ups by some names find those that have one
of the names. -/
theorem mem_filterMap_find? {α : Type} {name : α → String} {definitions : List α}
    (once : (definitions.map name).Nodup) {names : List String} {definition : α} :
    definition ∈ names.filterMap (fun key => definitions.find? (name · == key)) ↔
      definition ∈ definitions ∧ name definition ∈ names := by
  rw [List.mem_filterMap]
  constructor
  · rintro ⟨key, listed, found⟩
    have same : name definition = key := by simpa using List.find?_some found
    exact ⟨List.mem_of_find?_eq_some found, same ▸ listed⟩
  · rintro ⟨defined, listed⟩
    exact ⟨name definition, listed, find?_of_names once defined⟩

/-- A rule is found by its name. -/
theorem rule?_of_mem (valid : config.validate = .ok ()) {rule : ParameterRule}
    (listed : rule ∈ config.rules) : config.rule? rule.name = some rule :=
  find?_of_names (ruleNames_nodup valid) listed

/-- No rule has a reserved name. -/
theorem fault?_of_rule (valid : config.validate = .ok ()) {rule : ParameterRule}
    (listed : rule ∈ config.rules) : ParamName.fault? rule.name = none := by
  obtain ⟨_, named, _⟩ := Outcome.bind_eq_ok.mp (checkRule_of_validate valid listed)
  unfold checkName at named
  split at named
  case h_1 => cases named
  case h_2 accepted => exact accepted

/-- A node class is found by its name. -/
theorem nodeClass?_of_mem (valid : config.validate = .ok ()) {definition : NodeClass}
    (listed : definition ∈ config.nodeClasses) :
    config.nodeClass? definition.name = some definition :=
  find?_of_names (nodeClassNames_nodup valid) listed

/-- A connection class is found by its name. -/
theorem connectionClass?_of_mem (valid : config.validate = .ok ()) {definition : ConnectionClass}
    (listed : definition ∈ config.connectionClasses) :
    config.connectionClass? definition.name = some definition :=
  find?_of_names (connectionClassNames_nodup valid) listed

/-- An interface class is found by its name. -/
theorem interfaceClass?_of_mem (valid : config.validate = .ok ()) {definition : InterfaceClass}
    (listed : definition ∈ config.interfaceClasses) :
    config.interfaceClass? definition.name = some definition :=
  find?_of_names (interfaceClassNames_nodup valid) listed

/-- A group class is found by its name. -/
theorem groupClass?_of_mem (valid : config.validate = .ok ()) {definition : GroupClass}
    (listed : definition ∈ config.groupClasses) :
    config.groupClass? definition.name = some definition :=
  find?_of_names (groupClassNames_nodup valid) listed

/-- Every declaration of members in a valid configuration names classes of one kind. -/
theorem checkMember_of_validate (valid : config.validate = .ok ())
    {declaration : String × MemberClass} (listed : declaration ∈ config.memberDeclarations) :
    checkMember declaration = .ok () := by
  obtain ⟨_, _, rest⟩ := Outcome.bind_eq_ok.mp (checkClasses_of_validate valid)
  obtain ⟨_, _, rest⟩ := Outcome.bind_eq_ok.mp rest
  obtain ⟨_, members, _⟩ := Outcome.bind_eq_ok.mp rest
  exact Outcome.forM_eq_ok members declaration listed

end Config

end TopoPlan
