import TopoPlan.Config.Basic
import TopoPlan.Network.Description
import TopoPlan.TemplateOrder

/-!
# Templates of objects

The templates of all classes of one kind are ordered together, so a template may
depend on one of another class.  An object lists those of its own classes in that
order.  A neighbor or a member lists the templates of the declarations that made it.
-/

namespace TopoPlan

/-- The names of templates in order, each with the class that lists it, by kind. -/
structure TemplateIndex where
  ofKind : List (ClassKind × List (String × String))

namespace TemplateIndex

/-- The templates of all classes of a kind, each with its class. -/
def listed (config : Config) (kind : ClassKind) : List (String × Template) :=
  (config.classTemplates kind).flatMap fun entry =>
    entry.2.map fun template => (entry.1, template)

/-- The templates of all classes of a kind in order. -/
def ordered (config : Config) (kind : ClassKind) :
    Except CompileError (List (String × String)) := do
  let templates := listed config kind
  let positions <- TemplateOrder.order (templates.map (·.2))
  pure (positions.filterMap fun position =>
    templates[position]?.map fun entry => (entry.1, entry.2.label position))

/-- The index of a configuration. -/
def ofConfig (config : Config) : Except CompileError TemplateIndex := do
  let ofKind <- ClassKind.all.mapM fun kind => do
    let names <- ordered config kind
    pure (kind, names)
  pure { ofKind }

/-- The templates of some classes of a kind, in order. -/
def ofClasses (index : TemplateIndex) (kind : ClassKind) (classes : List String) : List String :=
  (((index.ofKind.lookup kind).getD []).filter fun entry => classes.contains entry.1).map (·.2)

/-- The templates of the declarations of neighbors in a layer. -/
def ofNeighborClasses (layer : String) (declared : List NeighborClass) : List Template :=
  (declared.filter (·.layer == layer)).flatMap (·.templates)

/-- The templates of a neighbor: those that the classes of the interface that has it,
and then the classes of its connection, declare. -/
def ofNeighbor (network : Network) (config : Config) (neighbor : Neighbor) : List Template :=
  let interface := network.interface neighbor.self
  let ofInterface := (interface.classes.filterMap config.interfaceClass?).flatMap fun definition =>
    ofNeighborClasses neighbor.layer definition.neighbors
  let ofConnection :=
    match interface.connection with
    | some id =>
      ((network.connection id).classes.filterMap config.connectionClass?).flatMap
        fun definition => ofNeighborClasses neighbor.layer definition.neighbors
    | none => []
  ofInterface ++ ofConnection

/-- The member declarations of an object. -/
def memberClassesOf (network : Network) : Scope -> List MemberClass
  | .node id => (network.node id).memberClasses.map (·.2)
  | .interface id => (network.interface id).memberClasses.map (·.2)
  | .connection id => (network.connection id).memberClasses.map (·.2)
  | _ => []

/-- Whether a declaration makes members of a class. -/
def declares (declared : MemberClass) (kind : ClassKind) (className : String) : Bool :=
  match declared.target with
  | .ok (target, names) => target = kind && names.contains className
  | .error _ => false

/-- The templates of a member. -/
def ofMember (network : Network) (member : Member) : List Template :=
  ((memberClassesOf network member.referrer).filter fun declared =>
    declares declared member.kind member.className).flatMap (·.templates)

/-- The names of the templates of an object, in order. -/
def templates (index : TemplateIndex) (network : Network) (config : Config) (scope : Scope) :
    Except CompileError (List String) :=
  match scope with
  | .neighbor id => TemplateOrder.labels (ofNeighbor network config (network.neighbor id))
  | .member id => TemplateOrder.labels (ofMember network (network.member id))
  | _ =>
    .ok (scope.classKind?.elim [] fun kind => index.ofClasses kind (network.classesOf scope))

end TemplateIndex

end TopoPlan
