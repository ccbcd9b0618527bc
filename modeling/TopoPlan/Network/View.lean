import TopoPlan.Network.PlaceLabels
import TopoPlan.Network.ScopeOrder
import TopoPlan.Network.Stage

/-!
# Relative views

The relative view of an object holds parameters of related objects under stems that
tell the relation.  It is made from a list of sources, each a stem with own
parameters of some object: the first source that gives a name counts, so nearer
relations shadow farther ones.
-/

namespace TopoPlan

/-- Own parameters of an object, to be shown with a stem before their names. -/
structure ViewSource where
  stem : String
  parameters : Table String
  deriving Inhabited

namespace View

/-- What stands between a label, an alias or a class and a name. -/
def separator : String := "_"

/-- The stem of the node of an interface. -/
def nodeStart : String := "node_"

/-- The stem of the groups of a node. -/
def groupStart : String := "group_"

/-- The stem of the other end of a connection. -/
def oppositeStart : String := "opp_"

/-- The stem of a neighbor. -/
def neighborStart : String := "n_"

/-- The stem of a member. -/
def memberStart : String := "m_"

/-- The names and values that a source shows. -/
def shown (source : ViewSource) : List (String × String) :=
  source.parameters.toList.map fun entry => (source.stem ++ entry.1, entry.2)

/-- The view made from sources; the first value of a name counts. -/
def ofSources (sources : List ViewSource) : Table String :=
  sources.foldl (fun (view : Table String) source => view.addAll (shown source)) {}

/-- The own parameters of an object as a source. -/
def own (network : Network) (stem : String) (scope : Scope) : ViewSource :=
  ⟨stem, (network.parametersOf scope).own⟩

/-- The sources of one group: under the stem of groups and under its classes. -/
def ofGroup (network : Network) (stem : String) (id : GroupId) : List ViewSource :=
  own network (stem ++ groupStart) (.group id) ::
    (network.group id).classes.map fun className =>
      own network (stem ++ className ++ separator) (.group id)

/-- The sources of the groups of a node. -/
def ofGroups (network : Network) (stem : String) (id : NodeId) : List ViewSource :=
  (network.node id).groups.flatMap (ofGroup network stem)

/-- The sources of an interface: itself, its node and the groups of its node. -/
def ofInterface (network : Network) (stem : String) (id : InterfaceId) : List ViewSource :=
  let node := (network.interface id).node
  own network stem (.interface id) :: own network (stem ++ nodeStart) (.node node) ::
    ofGroups network stem node

/-- The sources of the other end of the connection of an interface. -/
def ofOpposite (network : Network) (stem : String) (id : InterfaceId) : List ViewSource :=
  match network.opposite? id with
  | some opposite => ofInterface network (stem ++ oppositeStart) opposite
  | none => []

/-- The sources of an interface and of its other end. -/
def ofLink (network : Network) (stem : String) (id : InterfaceId) : List ViewSource :=
  ofInterface network stem id ++ ofOpposite network stem id

/-- The sources of the object that declares a member. -/
def ofReferrer (network : Network) (scope : Scope) : List ViewSource :=
  match scope with
  | .interface id =>
    [own network "" scope, own network nodeStart (.node (network.interface id).node)]
  | _ => [own network "" scope]

/-- The sources of an object without those of labels. -/
def related (network : Network) (scope : Scope) : List ViewSource :=
  match scope with
  | .network | .connection _ | .segment _ => [own network "" scope]
  | .node id => own network "" scope :: ofGroups network "" id
  | .interface id => ofLink network "" id
  | .neighbor id =>
    let neighbor := network.neighbor id
    ofLink network "" neighbor.self ++ ofLink network neighborStart neighbor.peer
  | .member id =>
    let member := network.member id
    ofReferrer network member.referrer ++ [own network memberStart member.member]
  | .group id => own network "" scope :: ofGroup network "" id

/-- The sources of all place labels. -/
def ofPlaces (places : PlaceLabels) : List ViewSource :=
  places.toList.map fun entry => ⟨entry.1 ++ separator, entry.2.parameters⟩

/-- The aliases of an object for place labels. -/
def aliases (network : Network) : Scope -> Table String
  | .node id => (network.node id).labels.aliases
  | .interface id => (network.interface id).labels.aliases
  | _ => {}

/-- The source of an alias. -/
def ofAlias (places : PlaceLabels) (entry : String × String) : Except CompileError ViewSource :=
  match places[entry.2]? with
  | some publication => .ok ⟨entry.1 ++ separator, publication.parameters⟩
  | none => .error (.unknownPlaceLabel entry.2 entry.1)

/-- All sources of an object. -/
def sources (network : Network) (places : PlaceLabels) (scope : Scope) :
    Except CompileError (List ViewSource) := do
  let ofAliases <- (aliases network scope).toList.mapM (ofAlias places)
  pure (related network scope ++ ofPlaces places ++ ofAliases)

/-- The view of an object. -/
def ofScope (network : Network) (places : PlaceLabels) (scope : Scope) :
    Except CompileError (Table String) :=
  (sources network places scope).map ofSources

/-- The order of all objects and the view of each. -/
def all (network : Network) : Except CompileError (List (Scope × Table String)) := do
  let places <- PlaceLabels.ofNetwork network
  let order <- ScopeOrder.order network network.scopes
  order.mapM fun scope => do
    let view <- ofScope network places scope
    pure (scope, view)

/-- Show the own parameters of an attachment. -/
def showAttachment (attachment : Attachment) : Attachment :=
  { attachment with
    parameters := attachment.parameters.withRelative attachment.parameters.own }

/-- Store views. -/
def store (network : Network) (views : List (Scope × Table String)) : Network :=
  let viewed := views.foldl
    (fun (current : Network) entry =>
      current.updateParameters entry.1 (·.withRelative entry.2))
    network
  { viewed with attachments := viewed.attachments.map showAttachment }

/-- Give every object its view, and tell the order of the objects. -/
def build : Stage (List Scope) := do
  let views <- Stage.ofExcept (all (<- get))
  modify fun network => store network views
  pure (views.map (·.1))

end View

end TopoPlan
