import TopoPlan.Network.Basic

/-!
# Stages

A stage of a compilation changes a network and may fail.  What it changed before it
failed stays.
-/

namespace TopoPlan

/-- A computation that changes a network and may fail. -/
abbrev Stage (α : Type) := EStateM CompileError Network α

namespace Stage

/-- The outcome of a computation that only looks. -/
def ofExcept {α : Type} : Except CompileError α -> Stage α
  | .ok value => pure value
  | .error error => throw error

/-- Fail where something is missing. -/
def require {α : Type} (found : Option α) (error : CompileError) : Stage α :=
  match found with
  | some value => pure value
  | none => throw error

/-- Run a stage: its outcome and the network that it leaves. -/
def outcome {α : Type} (stage : Stage α) (network : Network) :
    Except CompileError α × Network :=
  match stage.run network with
  | .ok value after => (.ok value, after)
  | .error error after => (.error error, after)

end Stage

end TopoPlan
