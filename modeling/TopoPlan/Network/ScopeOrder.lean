import TopoPlan.Dependency
import TopoPlan.Network.Children

/-!
# The order of objects

Objects are listed so that each comes after the objects that its children classes
hold.  Ties are broken by the ids of the sort, which are texts made of positions.
-/

namespace TopoPlan.ScopeOrder

/-- The id of the object at a position. -/
def idAt (position : Nat) : String := "namespacer_" ++ Numeral.text position

/-- The position of an object; of several, the last one counts. -/
def position? (scopes : List Scope) (scope : Scope) : Option Nat :=
  (scopes.zipIdx.reverse.find? fun entry => entry.1 = scope).map (·.2)

/-- The objects that an object comes after. -/
def before (network : Network) (scope : Scope) : Except CompileError (List Scope) := do
  let children <- (network.dependencyClasses scope).mapM (network.children scope)
  pure children.flatten

/-- The dependency graph of the objects of a list. -/
def graph (network : Network) (scopes : List Scope) : DependencyGraph Scope :=
  .ofList (scopes.zipIdx.map fun entry =>
    (idAt entry.2,
      { item := entry.1
        dependencies := (before network entry.1).map fun found =>
          (found.filterMap (position? scopes)).map idAt }))

/-- The objects of a list, each after the objects that it depends on. -/
def order (network : Network) (scopes : List Scope) : Except CompileError (List Scope) :=
  (graph network scopes).sort

end TopoPlan.ScopeOrder
