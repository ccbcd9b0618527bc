import TopoPlan.Network.View
import TopoPlan.Proofs.Config.Definitions
import TopoPlan.Proofs.Failures
import TopoPlan.Proofs.Network.ObjectOrder
import TopoPlan.Rule.Assignment

/-!
# Failures of parameters and views

A plain rule that takes its candidates from a file names one in a valid configuration,
and the objects of a network always have an order.  So parameters and views fail with
reported errors only, whatever generators fail with.
-/

namespace TopoPlan

open Outcome

/-- Reading a file fails with what is wrong with the file. -/
@[grind ←]
theorem TextFiles.reports_source {files : TextFiles} {path : String} :
    Reports (files.source path) := by
  unfold source
  split
  · exact reports_ok _
  · exact reports_error trivial

namespace Candidate

variable {config : Config} {files : TextFiles} {rule : ParameterRule} {count : Nat}

/-- Running out of integers is reported. -/
theorem reports_integers : Reports (integers rule count) := by
  grind [integers]

/-- A rule that names its file may find too few lines in it. -/
theorem reports_lines (sourced : rule.sourceFile ≠ none) :
    Reports (lines config files rule count) := by
  unfold lines
  split
  case h_1 missing => exact absurd missing sourced
  case h_2 =>
    refine reports_bind TextFiles.reports_source fun _ _ => ?_
    exact reports_ite (fun _ => reports_throw trivial) fun _ => reports_pure _

/-- Candidates that are missing or cannot be read are reported. -/
theorem reports_values (sourced : rule.kind = .file → rule.sourceFile ≠ none) :
    Reports (values config files rule count) := by
  unfold values
  split
  case h_1 => exact reports_integers
  case h_2 kind => exact reports_lines (sourced kind)

end Candidate

namespace Distribution

variable {config : Config} {network : Network}

/-- A request for an unknown rule is reported. -/
theorem reports_requestedRule {name : String} {objects : List Scope} :
    Reports (requestedRule config network name objects) := by
  grind [requestedRule]

/-- A requested rule is one of the configuration. -/
theorem mem_of_requestedRule {name : String} {objects : List Scope} {rule : ParameterRule}
    (found : requestedRule config network name objects = .ok rule) : rule ∈ config.rules := by
  unfold requestedRule at found
  split at found
  case h_1 defined =>
    cases found
    exact List.mem_of_find?_eq_some defined
  case h_2 => cases found

/-- Objects that cannot share a value are reported. -/
theorem reports_shared {rule : ParameterRule} {objects : List Scope} :
    Reports (shared config network rule objects) := by
  grind [shared, eachAlone, sharingLayer]

end Distribution

/-- Plain rules of a configuration that take candidates from a file name one. -/
def Config.Sourced (config : Config) : Prop :=
  ∀ rule ∈ config.rules, rule.attaches = false → rule.kind = .file → rule.sourceFile ≠ none

/-- A valid configuration has no rule with candidates of a file that it does not name. -/
theorem Config.sourced_of_validate {config : Config} (valid : config.validate = .ok ()) :
    config.Sourced := by
  intro rule listed plain kind missing
  have checked := checkRule_of_validate valid listed
  obtain ⟨_, _, rest⟩ := Outcome.bind_eq_ok.mp checked
  obtain ⟨_, _, rest⟩ := Outcome.bind_eq_ok.mp rest
  obtain ⟨_, _, rest⟩ := Outcome.bind_eq_ok.mp rest
  obtain ⟨_, _, rest⟩ := Outcome.bind_eq_ok.mp rest
  obtain ⟨_, candidates, _⟩ := Outcome.bind_eq_ok.mp rest
  have refused := refuseIf_eq_ok candidates
  rw [plain, missing] at refused
  simp [kind] at refused

namespace Assignment

open Stage TopoPlan.Distribution

variable {config : Config} {files : TextFiles}

/-- The distribution of one rule reports its errors, if the grouping does. -/
theorem reports_distributeRule (sourced : config.Sourced) {grouping : Grouping} {name : String}
    {objects : List Scope}
    (groups : ∀ network rule, Outcome.Reports (grouping network rule objects)) :
    Stage.Reports (distributeRule config files grouping name objects) := by
  intro network
  unfold distributeRule
  rw [outcome_get_bind]
  refine reports_outcome_bind (reports_ofExcept reports_requestedRule _) fun rule _ found => ?_
  obtain ⟨requested, rfl⟩ := outcome_ofExcept_eq_ok.mp found
  split
  case isTrue => exact reports_ok _
  case isFalse plain =>
    have named := sourced rule (mem_of_requestedRule requested) (Bool.eq_false_of_not_eq_true plain)
    refine Stage.reports_bind (reports_ofExcept (groups _ _)) (fun _ => ?_) _
    exact Stage.reports_bind (reports_ofExcept (Candidate.reports_values named))
      fun _ => reports_set _

/-- The distribution of all rules reports its errors, if the grouping does. -/
theorem reports_distribute (sourced : config.Sourced) {grouping : Grouping} {scopes : List Scope}
    (groups : ∀ network rule objects, Outcome.Reports (grouping network rule objects)) :
    Stage.Reports (distribute config files grouping scopes) :=
  Stage.reports_bind reports_get fun _ => Stage.reports_forM fun entry _ =>
    reports_distributeRule sourced fun network rule => groups network rule entry.2

/-- The assignment to the objects of a kind reports its errors. -/
theorem reports_assignKind (sourced : config.Sourced) {scopes : Network → List Scope} :
    Stage.Reports (assignKind config files scopes) :=
  Stage.reports_bind (reports_modify _) fun _ => Stage.reports_bind reports_get fun _ =>
    reports_distribute sourced fun _ _ _ => reports_ok _

/-- The assignment to the interfaces reports its errors. -/
theorem reports_assignInterfaces (sourced : config.Sourced) :
    Stage.Reports (assignInterfaces config files) :=
  Stage.reports_bind reports_get fun _ => Stage.reports_bind (reports_modify _) fun _ =>
    reports_distribute sourced fun _ _ _ => reports_shared

end Assignment

namespace Source

variable {config : Config} {files : TextFiles}

/-- A text that does not hold rows is reported. -/
theorem reports_contentRows {format : FileFormat} {path content : String} :
    Reports (contentRows files format path content) := by
  unfold contentRows
  split
  · exact reports_ok _
  all_goals
    split
    · exact reports_ok _
    · exact reports_error trivial

/-- A source without rows is reported. -/
theorem reports_rows {source : ValueSource} : Reports (rows config files source) := by
  unfold rows
  split
  case h_4 => exact reports_bind TextFiles.reports_source fun _ _ => reports_contentRows
  all_goals exact reports_ok _

/-- Rows that cannot be produced are reported. -/
theorem reports_allRows : Reports (allRows config files) := by
  refine reports_foldlM fun rule _ found => ?_
  split
  · exact reports_pure _
  · exact reports_bind (reports_map reports_rows) fun _ _ => reports_pure _

end Source

namespace Generators

/-- An error of a generator is told as one, whatever it is. -/
theorem reported_failure (name : String) (error : CompileError) :
    (failure name error).Reported := by
  cases error <;> trivial

/-- A generator that fails is reported. -/
theorem reports_rows {generators : Generators} {name : String} {config : Config}
    {network : Network} {owner : Scope} :
    Reports (generators.rows name config network owner) := by
  unfold rows
  split
  · exact reports_error trivial
  · exact reports_mapError (reported_failure name)

end Generators

namespace Attaching

open Stage

variable {config : Config} {files : TextFiles} {generators : Generators}

/-- Rows that an owner cannot be given are reported. -/
theorem reports_rowsFor {sourceRows : Table (List Row)} {network : Network}
    {rule : ParameterRule} {owner : Scope} :
    Outcome.Reports (rowsFor config generators sourceRows network rule owner) := by
  unfold rowsFor
  split
  · exact reports_map Generators.reports_rows
  · exact reports_ok _

/-- The attachment of records reports its errors. -/
theorem reports_attachAll : Stage.Reports (attachAll config files generators) := by
  refine Stage.reports_bind (reports_ofExcept Source.reports_allRows) fun sourceRows => ?_
  refine Stage.reports_forM fun rule _ => Stage.reports_bind reports_get fun network => ?_
  refine Stage.reports_bind (reports_ofExcept (reports_mapM fun owner _ => ?_)) fun _ =>
    reports_set _
  exact Outcome.reports_bind reports_rowsFor fun _ _ => Outcome.reports_pure _

end Attaching

/-- The parameters of all objects. -/
theorem Assignment.reports_assignAll {config : Config} {files : TextFiles}
    {generators : Generators} (sourced : config.Sourced) :
    Stage.Reports (assignAll config files generators) := by
  refine Stage.reports_bind (Stage.reports_modify _) fun _ => ?_
  refine Stage.reports_bind (reports_assignKind sourced) fun _ => ?_
  refine Stage.reports_bind (reports_assignKind sourced) fun _ => ?_
  refine Stage.reports_bind (reports_assignKind sourced) fun _ => ?_
  refine Stage.reports_bind (reports_assignKind sourced) fun _ => ?_
  exact Stage.reports_bind (reports_assignInterfaces sourced) fun _ => Attaching.reports_attachAll

namespace View

variable {network : Network}

/-- A scope whose labels are wrong is reported. -/
theorem reports_ofScope {places : PlaceLabels} {scope : Scope} :
    Reports (ofScope network places scope) := by
  refine reports_map (reports_bind (reports_mapM fun entry _ => ?_) fun _ _ => reports_pure _)
  unfold ofAlias
  split
  · exact reports_ok _
  · exact reports_error trivial

/-- Place labels that repeat are reported. -/
theorem reports_places : Reports (PlaceLabels.ofNetwork network) := by
  refine reports_foldlM fun entry _ labels => ?_
  unfold PlaceLabels.publish
  split
  · exact reports_error trivial
  · exact reports_ok _

/-- The objects of a network have an order, so there is no cycle among them. -/
theorem reports_all : Reports (all network) := by
  refine reports_bind reports_places fun places _ => ?_
  obtain ⟨order, sorted⟩ := ScopeOrder.exists_order network network.scopes
  rw [sorted]
  refine reports_bind (reports_ok order) fun _ _ => reports_mapM fun scope _ => ?_
  exact reports_bind reports_ofScope fun _ _ => reports_pure _

/-- The views of all objects. -/
theorem reports_build : Stage.Reports build :=
  Stage.reports_bind Stage.reports_get fun _ =>
    Stage.reports_bind (Stage.reports_ofExcept reports_all) fun _ =>
      Stage.reports_bind (Stage.reports_modify _) fun _ => Stage.reports_pure _

end View

end TopoPlan
