import TopoPlan.Config.Template
import TopoPlan.Proofs.Network.Stages
import TopoPlan.Proofs.Outcomes

/-!
# Errors that are reported

Some errors stand for conditions that checks made elsewhere rule out.  All others are
`Reported`, and a computation that fails with nothing else `Reports`.  This is shown by the
parts that a computation is made of: the lemmas below are tagged for `grind`, which takes
plain computations apart with them.
-/

namespace TopoPlan

/-- The errors that a compilation of a valid configuration may end with.  A cycle is one of
config templates. -/
@[grind]
def CompileError.Reported : CompileError → Prop
  | .cycle path => path ≠ [] ∧ ∀ id ∈ path, ∃ position, id = Template.positionId position
  | .unknownNode .. | .invalidMemberClass .. | .incompleteSort .. | .unnamedInterface ..
  | .invalidRule .. => False
  | .unknownClass .. | .unknownRule .. | .unknownLayer .. | .unknownPolicy ..
  | .undefinedPolicy .. | .unknownPlaceLabel .. | .unknownGenerator .. | .unknownModule ..
  | .duplicatePrimary .. | .primaryOnlyField .. | .inconsistentAddress ..
  | .inconsistentPolicy .. | .missingPolicy .. | .duplicatePlaceLabel .. | .duplicateName ..
  | .misplacedManagementClass .. | .notEnoughCandidates .. | .poolExhausted ..
  | .addressExhausted .. | .unresolvedDependency .. | .invalidTopology ..
  | .invalidAddress .. | .sourceFile .. | .sourceFormat .. | .generator ..
  | .moduleRequirement .. => True

namespace Outcome

variable {α β Entry State : Type}

/-- A computation fails with reported errors only. -/
def Reports (result : Except CompileError α) : Prop :=
  ∀ error, result = .error error → error.Reported

/-- A value reports no error. -/
@[grind ←]
theorem reports_ok (value : α) : Reports (.ok value) :=
  fun _ failed => nomatch failed

@[grind ←]
theorem reports_pure (value : α) : Reports (pure value) :=
  reports_ok value

/-- A reported error is reported. -/
@[grind ←]
theorem reports_error {error : CompileError} (reported : error.Reported) :
    Reports (.error error : Except CompileError α) := by
  intro _ failed
  cases failed
  exact reported

@[grind ←]
theorem reports_throw {error : CompileError} (reported : error.Reported) :
    Reports (throw error : Except CompileError α) :=
  reports_error reported

/-- Two parts report their errors when each of them does. -/
@[grind ←]
theorem reports_bind {first : Except CompileError α} {next : α → Except CompileError β}
    (head : Reports first) (tail : ∀ value, first = .ok value → Reports (next value)) :
    Reports (first >>= next) := by
  cases first with
  | error error => exact reports_error (head error rfl)
  | ok value => exact tail value rfl

theorem reports_ite {condition : Prop} [Decidable condition] {first second : Except CompileError α}
    (holds : condition → Reports first) (fails : ¬ condition → Reports second) :
    Reports (if condition then first else second) := by
  split
  case isTrue true => exact holds true
  case isFalse false => exact fails false

/-- Changing a result does not change errors. -/
@[grind ←]
theorem reports_map {result : Except CompileError α} {change : α → β} (reports : Reports result) :
    Reports (result.map change) := by
  cases result with
  | error error => exact reports_error (reports error rfl)
  | ok value => exact reports_ok _

/-- A computation whose errors are told in another way. -/
theorem reports_mapError {ε : Type} {result : Except ε α} {change : ε → CompileError}
    (reported : ∀ error, (change error).Reported) : Reports (result.mapError change) := by
  cases result with
  | error error => exact reports_error (reported error)
  | ok value => exact reports_ok value

/-- A fold reports its errors when its steps do. -/
@[grind ←]
theorem reports_foldlM {step : State → Entry → Except CompileError State} {entries : List Entry}
    {start : State} (each : ∀ entry ∈ entries, ∀ state, Reports (step state entry)) :
    Reports (entries.foldlM step start) := by
  induction entries generalizing start with
  | nil => exact reports_pure start
  | cons entry rest inductionHypothesis =>
    obtain ⟨first, others⟩ := List.forall_mem_cons.mp each
    rw [List.foldlM_cons]
    exact reports_bind (first start) fun _ _ => inductionHypothesis others

/-- Changing entries reports its errors when each change does. -/
@[grind ←]
theorem reports_mapM {change : Entry → Except CompileError α} {entries : List Entry}
    (each : ∀ entry ∈ entries, Reports (change entry)) : Reports (entries.mapM change) := by
  induction entries with
  | nil => exact reports_pure []
  | cons entry rest inductionHypothesis =>
    obtain ⟨first, others⟩ := List.forall_mem_cons.mp each
    rw [List.mapM_cons]
    exact reports_bind first fun _ _ =>
      reports_bind (inductionHypothesis others) fun _ _ => reports_pure _

/-- Checking entries reports its errors when each check does. -/
@[grind ←]
theorem reports_forM {check : Entry → Except CompileError Unit} {entries : List Entry}
    (each : ∀ entry ∈ entries, Reports (check entry)) : Reports (entries.forM check) := by
  induction entries with
  | nil => exact reports_pure ()
  | cons entry rest inductionHypothesis =>
    obtain ⟨first, others⟩ := List.forall_mem_cons.mp each
    exact reports_bind first fun _ _ => inductionHypothesis others

end Outcome

namespace Stage

variable {α β γ : Type}

/-- A stage fails with reported errors only, whatever network it starts from. -/
def Reports (stage : Stage α) : Prop :=
  ∀ network, Outcome.Reports (outcome stage network).1

@[grind ←]
theorem reports_pure (value : α) : Reports (pure value) :=
  fun _ => Outcome.reports_ok value

@[grind ←]
theorem reports_get : Reports get :=
  fun network => Outcome.reports_ok network

@[grind ←]
theorem reports_set (network : Network) : Reports (set network) :=
  fun _ => Outcome.reports_ok _

@[grind ←]
theorem reports_modify (change : Network → Network) : Reports (modify change) :=
  fun _ => Outcome.reports_ok _

@[grind ←]
theorem reports_throw {error : CompileError} (reported : error.Reported) :
    Reports (throw error : Stage α) :=
  fun _ => Outcome.reports_error reported

/-- A look reports the errors of what it looks at. -/
@[grind ←]
theorem reports_ofExcept {result : Except CompileError α} (reports : Outcome.Reports result) :
    Reports (Stage.ofExcept result) := by
  intro network
  rw [outcome_ofExcept]
  exact reports

/-- A missing value is reported when its error is. -/
@[grind ←]
theorem reports_require {found : Option α} {error : CompileError} (reported : error.Reported) :
    Reports (require found error) := by
  cases found with
  | none => exact reports_throw reported
  | some value => exact reports_pure value

/-- One stage after another, from a network for which the second is known to report. -/
theorem reports_outcome_bind {stage : Stage α} {next : α → Stage β} {network : Network}
    (head : Outcome.Reports (outcome stage network).1)
    (tail : ∀ value after, outcome stage network = (.ok value, after) →
      Outcome.Reports (outcome (next value) after).1) :
    Outcome.Reports (outcome (stage >>= next) network).1 := by
  rw [outcome_bind]
  cases run : outcome stage network with
  | mk result after =>
    rw [run] at head
    cases result with
    | error error => exact Outcome.reports_error (head error rfl)
    | ok value => exact tail value after run

/-- Two stages report their errors when each of them does. -/
@[grind ←]
theorem reports_bind {stage : Stage α} {next : α → Stage β} (head : Reports stage)
    (tail : ∀ value, Reports (next value)) : Reports (stage >>= next) :=
  fun network => reports_outcome_bind (head network) fun value after _ => tail value after

theorem reports_ite {condition : Prop} [Decidable condition] {first second : Stage α}
    (holds : condition → Reports first) (fails : ¬ condition → Reports second) :
    Reports (if condition then first else second) := by
  split
  case isTrue true => exact holds true
  case isFalse false => exact fails false

/-- Stages of all entries report their errors when each of them does. -/
@[grind ←]
theorem reports_forM {entries : List γ} {stage : γ → Stage PUnit}
    (each : ∀ entry ∈ entries, Reports (stage entry)) : Reports (entries.forM stage) := by
  induction entries with
  | nil => exact reports_pure _
  | cons entry rest inductionHypothesis =>
    obtain ⟨first, others⟩ := List.forall_mem_cons.mp each
    exact reports_bind first fun _ => inductionHypothesis others

/-- Stages that report where an invariant holds, which all of them keep. -/
theorem reports_outcome_forM {entries : List γ} {stage : γ → Stage PUnit}
    (invariant : Network → Prop) {network : Network}
    (each : ∀ entry ∈ entries, ∀ before, invariant before →
      Outcome.Reports (outcome (stage entry) before).1)
    (keeps : ∀ entry ∈ entries, Within (.ofInvariant invariant) (stage entry))
    (start : invariant network) : Outcome.Reports (outcome (entries.forM stage) network).1 := by
  induction entries generalizing network with
  | nil => exact Outcome.reports_ok _
  | cons entry rest inductionHypothesis =>
    obtain ⟨first, others⟩ := List.forall_mem_cons.mp each
    obtain ⟨kept, othersKept⟩ := List.forall_mem_cons.mp keeps
    refine reports_outcome_bind (first network start) fun _ middle run => ?_
    have holds : invariant (outcome (stage entry) network).2 := kept network start
    rw [run] at holds
    exact inductionHypothesis others othersKept holds

end Stage

end TopoPlan
