import TopoPlan.Text.Table

/-!
# Parameters of an object

An object has parameters of its own, which may be replaced while a network is
resolved, and a relative view, which also holds parameters of related objects.  In
the relative view the first writer of a name counts.  Flags name the rules that the
object requests.
-/

namespace TopoPlan

/-- The parameters of one object. -/
structure Parameters where
  own : Table String := {}
  relative : Table String := {}
  flags : NameSet := {}
  deriving DecidableEq, Inhabited

namespace Parameters

/-- Give an own parameter a value. -/
def set (parameters : Parameters) (key value : String) : Parameters :=
  { parameters with own := parameters.own.insert key value }

/-- Give an own parameter a value unless it has one. -/
def setIfAbsent (parameters : Parameters) (key value : String) : Parameters :=
  { parameters with own := parameters.own.insertIfNew key value }

/-- Give own parameters their values, one after the other. -/
def setAll (parameters : Parameters) (entries : List (String × String)) : Parameters :=
  { parameters with own := parameters.own.setAll entries }

/-- Give own parameters their values where they have none. -/
def addAll (parameters : Parameters) (entries : List (String × String)) : Parameters :=
  { parameters with own := parameters.own.addAll entries }

/-- The value of an own parameter. -/
def get? (parameters : Parameters) (key : String) : Option String :=
  parameters.own[key]?

/-- Whether an own parameter has a value. -/
def has (parameters : Parameters) (key : String) : Bool :=
  parameters.own.contains key

/-- Add to the relative view, unless the name is taken there. -/
def setRelative (parameters : Parameters) (key value : String) : Parameters :=
  { parameters with relative := parameters.relative.insertIfNew key value }

/-- Replace the relative view. -/
def withRelative (parameters : Parameters) (relative : Table String) : Parameters :=
  { parameters with relative }

/-- Request a rule. -/
def flag (parameters : Parameters) (name : String) : Parameters :=
  { parameters with flags := parameters.flags.insert name }

/-- Whether a rule is requested. -/
def hasFlag (parameters : Parameters) (name : String) : Bool :=
  parameters.flags.contains name

end Parameters

end TopoPlan
