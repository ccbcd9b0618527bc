import TopoPlan.Network.Description

/-!
# Place labels

A place label publishes the own parameters of a node, an interface or a group to all
objects.  A label is published once.
-/

namespace TopoPlan

/-- The publisher of a place label and its parameters. -/
structure Publication where
  publisher : Scope
  parameters : Table String
  deriving DecidableEq, Inhabited

/-- Publications by label. -/
abbrev PlaceLabels := Table Publication

namespace PlaceLabels

/-- The labels of the objects that may publish, in the order in which they do. -/
def published (network : Network) : List (String × Scope) :=
  let labelled := fun (scope : Scope) (labels : Labels) =>
    labels.places.map fun label => (label, scope)
  (network.nodeIds.flatMap fun id =>
    let node := network.node id
    labelled (.node id) node.labels ++ node.interfaces.flatMap fun interface =>
      labelled (.interface interface) (network.interface interface).labels) ++
  network.groupIds.flatMap fun id => labelled (.group id) (network.group id).labels

/-- Publish the parameters of an object under a label. -/
def publish (network : Network) (labels : PlaceLabels) (entry : String × Scope) :
    Except CompileError PlaceLabels :=
  match labels[entry.1]? with
  | some earlier =>
    .error (.duplicatePlaceLabel entry.1 (network.describe earlier.publisher)
      (network.describe entry.2))
  | none => .ok (labels.insert entry.1 ⟨entry.2, (network.parametersOf entry.2).own⟩)

/-- All publications of a network. -/
def ofNetwork (network : Network) : Except CompileError PlaceLabels :=
  (published network).foldlM (publish network) {}

end PlaceLabels

end TopoPlan
