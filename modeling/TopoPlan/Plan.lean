import TopoPlan.Compiler
import TopoPlan.Network.Templates

/-!
# Plans

A plan is what a compilation writes: every object of the resolved network with its
classes, its relative view, its templates and its records, in the order of the
objects.
-/

namespace TopoPlan

/-- A record of an object. -/
structure PlanRecord where
  rule : String
  index : Nat
  params : Table String
  deriving DecidableEq, Inhabited

/-- An object of a plan. -/
structure PlanObject where
  kind : String
  name : String
  classes : List String := []
  /-- The relative view. -/
  params : Table String := {}
  /-- Names of templates in order. -/
  templates : List String := []
  records : List PlanRecord := []
  deriving DecidableEq, Inhabited

/-- What a compilation writes. -/
structure Plan where
  name : String
  modules : List String := []
  objects : List PlanObject := []
  deriving DecidableEq, Inhabited

namespace Plan

/-- The first object of a kind and a name. -/
def object? (plan : Plan) (kind name : String) : Option PlanObject :=
  plan.objects.find? fun object => object.kind == kind && object.name == name

/-- A parameter of an object. -/
def param? (plan : Plan) (kind name key : String) : Option String := do
  let object <- plan.object? kind name
  object.params[key]?

/-- The records of an object. -/
def recordsOf (network : Network) (scope : Scope) : List PlanRecord :=
  (network.attachments.toList.filter fun attachment => attachment.owner = scope).map
    fun attachment => ⟨attachment.rule, attachment.index, attachment.parameters.relative⟩

/-- The name of an object in a plan; the network has the name of the configuration. -/
def nameOf (config : Config) (network : Network) : Scope -> String
  | .network => config.name
  | scope => network.sortKey scope

/-- An object of a resolved network. -/
def objectOf (config : Config) (index : TemplateIndex) (network : Network) (scope : Scope) :
    Except CompileError PlanObject := do
  let templates <- index.templates network config scope
  pure
    { kind := scope.kind
      name := nameOf config network scope
      classes := network.classesOf scope
      params := (network.parametersOf scope).relative
      templates
      records := recordsOf network scope }

/-- The plan that a compiler makes of a topology. -/
def ofTopology (compiler : Compiler) (files : TextFiles) (topology : Topology) :
    Except CompileError Plan := do
  let (network, order) <- compiler.resolve files topology
  let index <- TemplateIndex.ofConfig compiler.config
  let objects <- order.mapM (objectOf compiler.config index network)
  pure
    { name := compiler.config.name
      modules := compiler.extensions.map Extension.name
      objects }

/-- The plan that a configuration makes of a topology. -/
def compile (config : Config) (files : TextFiles) (topology : Topology) :
    Except CompileError Plan := do
  let compiler <- Compiler.ofConfig config
  ofTopology compiler files topology

/-- A table of texts as a value. -/
def paramsValue (params : Table String) : Value :=
  .fields (params.toList.map fun entry => (entry.1, .text entry.2))

/-- A field with a list, left out where the list is empty. -/
def listEntry (name : String) (items : List Value) : List (String × Value) :=
  if items.isEmpty then [] else [(name, .list items)]

end Plan

/-- A record as a value. -/
def PlanRecord.toValue (entry : PlanRecord) : Value := .fields [
  ("rule", .text entry.rule), ("index", .natural entry.index),
  ("params", Plan.paramsValue entry.params)]

/-- An object as a value. -/
def PlanObject.toValue (object : PlanObject) : Value := .fields (
  [("kind", .text object.kind), ("name", .text object.name)] ++
    Plan.listEntry "classes" (object.classes.map .text) ++
    [("params", Plan.paramsValue object.params)] ++
    Plan.listEntry "templates" (object.templates.map .text) ++
    Plan.listEntry "values" (object.records.map PlanRecord.toValue))

namespace Plan

/-- A plan as a value. -/
def toValue (plan : Plan) : Value := .fields [
  ("name", .text plan.name), ("modules", .texts plan.modules),
  ("objects", .list (plan.objects.map PlanObject.toValue))]

/-- A plan as JSON text. -/
def toJson (plan : Plan) : String := Json.pretty 0 plan.toValue

/-- A plan as YAML text. -/
def toYaml (plan : Plan) : String := Yaml.text plan.toValue

end Plan

end TopoPlan
