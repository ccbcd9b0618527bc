import TopoPlan.Data.Value
import TopoPlan.Text.Table
import TopoPlan.Text.Blank

/-!
# Parameter rules

A rule names a parameter that classes can request.  A plain rule gives each
requesting object one candidate; an attach rule gives it records made from a source
or by a generator.
-/

namespace TopoPlan

/-- Which interfaces share a value of a plain rule. -/
inductive AssignMode where
  /-- Every interface has its own. -/
  | object
  /-- Interfaces of one segment of the rule's layer share one. -/
  | segment
  /-- Interfaces of one connection share one. -/
  | connection
  deriving DecidableEq, Inhabited

/-- Where the candidates of a plain rule come from. -/
inductive CandidateKind where
  | integer
  | file
  deriving DecidableEq, Inhabited

/-- What the records of a source are made from. -/
inductive SourceKind where
  | range
  | sequence
  | list
  | file
  deriving DecidableEq, Inhabited

/-- A source of records. -/
structure ValueSource where
  kind : SourceKind
  start : Int := 0
  stop : Int := 0
  values : List (Table Value) := []
  file : Option String := none
  format : Option String := none
  deriving Inhabited

/-- A rule for a parameter. -/
structure ParameterRule where
  name : String
  assign : AssignMode := .object
  layer : Option String := none
  kind : CandidateKind := .integer
  max : Int := 0
  min : Int := 0
  header : String := ""
  footer : String := ""
  sourceFile : Option String := none
  source : Option ValueSource := none
  /-- A generator, written as module and name joined by a point. -/
  generator : Option String := none
  /-- Derived fields of records, with references to other fields. -/
  formats : Table String := {}
  deriving Inhabited

namespace ParameterRule

/-- The name of the generator, if one is given. -/
def generatorName? (rule : ParameterRule) : Option String :=
  rule.generator.filter fun name => !name.isEmpty

/-- Whether the rule attaches records. -/
def attaches (rule : ParameterRule) : Bool :=
  rule.source.isSome || rule.generatorName?.isSome

/-- The module and the name of the generator. -/
def generatorParts? (rule : ParameterRule) : Option (String × String) := do
  let written <- rule.generator
  let parts <- Text.cutOnce '.' written
  if parts.1.isEmpty || parts.2.isEmpty then none else pure parts

end ParameterRule

end TopoPlan
