import TopoPlan.Plan
import TopoPlan.Proofs.Dependency.TemplateFailures
import TopoPlan.Proofs.Network.AddressFailures
import TopoPlan.Proofs.Network.ParameterFailures
import TopoPlan.Proofs.Network.ResolutionFailures

/-!
# Failures of compilations

What a compilation of a valid configuration fails with is reported: the errors that
remain are ruled out by the checks of the configuration and of the topology, by the
naming of interfaces and by the order that objects always have.  The main statement is
`reported_of_compile`.
-/

namespace TopoPlan

open Outcome

namespace Extension

variable {config : Config}

/-- Extensions add no rules. -/
theorem rules_extendConfig (config : Config) (extension : Extension) :
    (extendConfig config extension).rules = config.rules := by
  cases extension with
  | builtin => rfl
  | containerlab =>
    unfold extendConfig Containerlab.extendConfig
    dsimp only
    split <;> rfl

/-- The classes of extensions declare no members. -/
theorem memberDeclarations_extendConfig (config : Config) (extension : Extension) :
    (extendConfig config extension).memberDeclarations ⊆ config.memberDeclarations := by
  cases extension with
  | builtin => exact List.Subset.refl _
  | containerlab =>
    unfold extendConfig Containerlab.extendConfig
    dsimp only
    split
    · exact List.Subset.refl _
    · intro declaration listed
      rcases Config.mem_memberDeclarations.mp listed with ⟨definition, defined, declares⟩ | others
      · rcases List.mem_append.mp defined with given | added
        · exact Config.mem_memberDeclarations.mpr (.inl ⟨definition, given, declares⟩)
        · obtain rfl := List.mem_singleton.mp added
          cases declares
      · exact Config.mem_memberDeclarations.mpr (.inr others)

/-- Choosing extensions reports its errors. -/
theorem reports_ofConfig : Reports (ofConfig config) := by
  refine reports_foldlM fun selector _ extensions => reports_map ?_
  unfold select
  split
  · exact reports_ok _
  · exact reports_error trivial

end Extension

namespace Containerlab

/-- A requirement that is not met is reported. -/
theorem reports_unsatisfied {α : Type} {reason : String} :
    Reports (unsatisfied reason : Except CompileError α) :=
  reports_error trivial

/-- What extensions require of a network is reported. -/
theorem reports_check {config : Config} {network : Network} : Reports (check config network) := by
  refine reports_ite (fun _ => reports_forM fun node _ => ?_) fun _ => reports_unsatisfied
  unfold checkNode
  split
  · exact reports_ok ()
  · exact reports_unsatisfied

end Containerlab

/-- What the stages of a compilation rely on in a configuration. -/
structure Config.Checked (config : Config) : Prop where
  sourced : config.Sourced
  members : ∀ declaration ∈ config.memberDeclarations, checkMember declaration = .ok ()

/-- A valid configuration was checked. -/
theorem Config.checked_of_validate {config : Config} (valid : config.validate = .ok ()) :
    config.Checked :=
  ⟨sourced_of_validate valid, fun _ listed => checkMember_of_validate valid listed⟩

/-- Extensions do not undo what was checked. -/
theorem Config.Checked.extendConfig {config : Config} (checked : config.Checked)
    (extension : Extension) : (extension.extendConfig config).Checked where
  sourced := by
    unfold Config.Sourced
    rw [Extension.rules_extendConfig]
    exact checked.sourced
  members declaration listed :=
    checked.members declaration (Extension.memberDeclarations_extendConfig config extension listed)

namespace Compiler

open Stage

variable {config : Config} {compiler : Compiler}

/-- Preparing a compiler reports its errors. -/
theorem reports_ofConfig : Outcome.Reports (ofConfig config) := by
  refine Outcome.reports_bind Extension.reports_ofConfig fun extensions _ => ?_
  refine Outcome.reports_bind ?_ fun _ _ => Outcome.reports_pure _
  unfold checkGenerators
  split
  · exact reports_error trivial
  · exact reports_ok ()

/-- The configuration of a compiler was checked when the given one was. -/
theorem checked_of_ofConfig (checked : config.Checked) (made : ofConfig config = .ok compiler) :
    compiler.config.Checked := by
  obtain ⟨extensions, _, made⟩ := Outcome.bind_eq_ok.mp made
  obtain ⟨_, _, made⟩ := Outcome.bind_eq_ok.mp made
  cases made
  exact List.foldlRecOn extensions _ checked fun _ holds extension _ => holds.extendConfig extension

/-- A check by all extensions reports its errors. -/
theorem reports_check {network : Network} : Outcome.Reports (compiler.check network) := by
  refine Outcome.reports_forM fun extension _ => ?_
  cases extension with
  | builtin => exact reports_ok ()
  | containerlab => exact Containerlab.reports_check

/-- All stages of a compilation, from the network of a topology on. -/
theorem reports_run (checked : compiler.config.Checked) {files : TextFiles} {topology : Topology}
    {built : Network} (made : Network.ofTopology compiler.config topology = .ok built) :
    Outcome.Reports ((compiler.run files).outcome built).1 := by
  refine reports_outcome_bind (Network.reports_resolve made checked.members) fun _ resolved _ => ?_
  have stages : Stage.Reports (do
      Segments.addAll compiler.config
      Addressing.assignAll compiler.config
      Assignment.assignAll compiler.config files compiler.generators
      modify compiler.giveParameters
      let order ← View.build
      Stage.ofExcept (compiler.check (← get))
      pure order) := by
    refine Stage.reports_bind Segments.reports_addAll fun _ => ?_
    refine Stage.reports_bind Addressing.reports_assignAll fun _ => ?_
    refine Stage.reports_bind (Assignment.reports_assignAll checked.sourced) fun _ => ?_
    refine Stage.reports_bind (reports_modify _) fun _ => ?_
    refine Stage.reports_bind View.reports_build fun order => ?_
    refine Stage.reports_bind reports_get fun network => ?_
    exact Stage.reports_bind (reports_ofExcept reports_check) fun _ => Stage.reports_pure order
  exact stages resolved

/-- Compiling a topology reports its errors. -/
theorem reports_resolve (checked : compiler.config.Checked) {files : TextFiles}
    {topology : Topology} : Outcome.Reports (compiler.resolve files topology) :=
  Outcome.reports_bind Network.reports_ofTopology fun _ made =>
    reports_map (reports_run checked made)

end Compiler

namespace Plan

/-- A compilation of a valid configuration fails with nothing but reported errors: not with
an incomplete sort, an interface without a name, an unknown node, a declaration of members
without a target or a rule without its file, and with no cycle but one of templates. -/
theorem reported_of_compile {config : Config} {files : TextFiles} {topology : Topology}
    {error : CompileError} (valid : config.validate = .ok ())
    (failed : compile config files topology = .error error) : error.Reported := by
  have compilation : Reports (compile config files topology) := by
    refine reports_bind Compiler.reports_ofConfig fun compiler made => ?_
    have checked := Compiler.checked_of_ofConfig (Config.checked_of_validate valid) made
    refine reports_bind (Compiler.reports_resolve checked) fun resolved _ => ?_
    refine reports_bind TemplateIndex.reports_ofConfig fun index _ => ?_
    refine reports_bind (reports_mapM fun scope _ => ?_) fun _ _ => reports_pure _
    exact reports_bind TemplateIndex.reports_templates fun _ _ => reports_pure _
  exact compilation error failed

end Plan

namespace Circle

/-- The two templates of hosts come before each other. -/
def config : Config where
  name := "circle"
  nodeClasses := [{ name := "host"
                    templates := [{ name := "first", depends := ["second"] },
                      { name := "second", depends := ["first"] }] }]

/-- One host. -/
def topology : Topology where
  nodes := [{ name := "a", labels := ["host"] }]

/-- The cycle is told by the positions of the templates. -/
theorem compile_of_circle :
    config.validate = .ok () ∧
      Plan.compile config TextFiles.none topology =
        .error (.cycle ["template_0", "template_1", "template_0"]) ∧
      (CompileError.cycle ["template_0", "template_1", "template_0"]).Reported := by
  have valid : config.validate = .ok () := by decide +kernel
  have failed : Plan.compile config TextFiles.none topology =
      .error (.cycle ["template_0", "template_1", "template_0"]) := by decide +kernel
  exact ⟨valid, failed, Plan.reported_of_compile valid failed⟩

end Circle

end TopoPlan
