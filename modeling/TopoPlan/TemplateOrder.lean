import TopoPlan.Config.Template
import TopoPlan.Dependency

/-!
# The order of config templates

A template comes after the templates whose names it lists, and a template of style
`sort` comes after all other templates of its group.
-/

namespace TopoPlan.TemplateOrder

/-- Positions of the templates that satisfy a test. -/
def positions (templates : List Template) (test : Template -> Bool) : List Nat :=
  (templates.zipIdx.filter fun entry => test entry.1).map (·.2)

/-- Positions of the templates of the group that a template follows. -/
def groupBefore (templates : List Template) (template : Template) (position : Nat) : List Nat :=
  if template.isSortStyle && !template.sortGroup.isEmpty then
    (positions templates (·.group == template.sortGroup)).filter (· != position)
  else []

/-- Positions of the templates of a name that a template lists. -/
def namedBefore (templates : List Template) (template : Template) (position : Nat)
    (name : String) : Except CompileError (List Nat) :=
  match (if name.isEmpty then [] else positions templates (·.name == name)) with
  | [] => .error (.unresolvedDependency name (template.label position))
  | found => .ok found

/-- The ids of all templates that come before one. -/
def before (templates : List Template) (template : Template) (position : Nat) :
    Except CompileError (List String) := do
  let named <- template.depends.mapM (namedBefore templates template position)
  pure ((groupBefore templates template position ++ named.flatten).map Template.positionId)

/-- The dependency graph of templates. -/
def graph (templates : List Template) : DependencyGraph Nat :=
  .ofList (templates.zipIdx.map fun entry =>
    (Template.positionId entry.2, ⟨entry.2, before templates entry.1 entry.2⟩))

/-- Positions of the templates, each after those that come before it. -/
def order (templates : List Template) : Except CompileError (List Nat) :=
  (graph templates).sort

/-- The names of templates in order. -/
def labels (templates : List Template) : Except CompileError (List String) :=
  (order templates).map fun positions =>
    positions.filterMap fun position =>
      templates[position]?.map fun template => template.label position

end TopoPlan.TemplateOrder
