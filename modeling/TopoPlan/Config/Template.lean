import TopoPlan.Text.Numeral

/-!
# Config templates

A class lists the config templates that its objects need.  Templates are not
rendered here; what counts is their names and the order that they ask for.
-/

namespace TopoPlan

/-- A config template as a class lists it. -/
structure Template where
  style : String := ""
  /-- The group whose templates a template of style `sort` follows. -/
  sortGroup : String := ""
  file : String := ""
  name : String := ""
  group : String := ""
  priority : Int := 0
  /-- Names of the templates that come before this one. -/
  depends : List String := []
  node : String := ""
  nodes : List String := []
  neighborNode : String := ""
  neighborNodes : List String := []
  empty : Bool := false
  platform : List String := []
  format : String := ""
  formats : List String := []
  lines : List String := []
  sourceFile : String := ""
  deriving DecidableEq, Inhabited

namespace Template

/-- The style of a template that follows a whole group. -/
def sortStyle : String := "sort"

/-- The style of a template that stands alone. -/
def hierarchyStyle : String := "hierarchy"

/-- Whether a template follows a whole group. -/
def isSortStyle (template : Template) : Bool := template.style == sortStyle

/-- The name that stands for a template by its position. -/
def positionId (position : Nat) : String := "template_" ++ Numeral.text position

/-- The name of a template, or the one of its position. -/
def label (template : Template) (position : Nat) : String :=
  if template.name.isEmpty then positionId position else template.name

end Template

end TopoPlan
