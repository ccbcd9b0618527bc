import TopoPlan.Config.Basic

/-!
# Writing configurations

A configuration is written with all its fields; only an optional field without a
value is left out.
-/

namespace TopoPlan

open Value

/-- An optional field: written when it has a value. -/
def optionalField (name : String) (value : Option String) : List (String × Value) :=
  match value with
  | some content => [(name, .text content)]
  | none => []

/-- A table of values as a mapping. -/
def tableValue (table : Table Value) : Value := fields table.toList

/-- A config template. -/
def Template.toValue (template : Template) : Value := fields [
  ("style", .text template.style),
  ("sort_group", .text template.sortGroup),
  ("file", .text template.file),
  ("name", .text template.name),
  ("group", .text template.group),
  ("priority", .integer template.priority),
  ("depends", texts template.depends),
  ("node", .text template.node),
  ("nodes", texts template.nodes),
  ("neighbor_node", .text template.neighborNode),
  ("neighbor_nodes", texts template.neighborNodes),
  ("empty", .bool template.empty),
  ("platform", texts template.platform),
  ("format", .text template.format),
  ("formats", texts template.formats),
  ("template", texts template.lines),
  ("sourcefile", .text template.sourceFile)]

/-- The templates of a class. -/
def templatesEntry (templates : List Template) : String × Value :=
  ("config", .list (templates.map Template.toValue))

/-- The word for what a policy serves. -/
def PolicyKind.word : PolicyKind -> String
  | .ip => "ip"
  | .loopback => "loopback"

/-- A policy. -/
def Policy.toValue (policy : Policy) : Value := fields [
  ("name", .text policy.name),
  ("type", .text policy.kind.word),
  ("range", .text policy.range),
  ("prefix", natural policy.subnetLength)]

/-- A layer. -/
def Layer.toValue (layer : Layer) : Value := fields [
  ("name", .text layer.name),
  ("default_connect", .bool layer.connectsByDefault),
  ("policy", .list (layer.policies.map Policy.toValue))]

/-- A management layer. -/
def ManagementLayer.toValue (layer : ManagementLayer) : Value := fields (
  [("name", .text layer.name), ("range", .text layer.range)] ++
    optionalField "gateway" layer.gateway ++
    optionalField "interface_name" layer.interfaceName)

/-- The word for what records are made from. -/
def SourceKind.word : SourceKind -> String
  | .range => "range"
  | .sequence => "sequence"
  | .list => "list"
  | .file => "file"

/-- A source of records. -/
def ValueSource.toValue (source : ValueSource) : Value := fields (
  [("type", .text source.kind.word),
    ("start", .integer source.start),
    ("end", .integer source.stop),
    ("values", .list (source.values.map tableValue))] ++
    optionalField "file" source.file ++ optionalField "format" source.format)

/-- The word for how values are shared. -/
def AssignMode.word : AssignMode -> String
  | .object => "object"
  | .segment => "segment"
  | .connection => "connection"

/-- The word for where candidates come from. -/
def CandidateKind.word : CandidateKind -> String
  | .integer => "integer"
  | .file => "file"

/-- A parameter rule. -/
def ParameterRule.toValue (rule : ParameterRule) : Value := fields (
  [("name", .text rule.name), ("assign", .text rule.assign.word)] ++
    optionalField "layer" rule.layer ++
    [("type", .text rule.kind.word),
      ("max", .integer rule.max),
      ("min", .integer rule.min),
      ("header", .text rule.header),
      ("footer", .text rule.footer)] ++
    optionalField "sourcefile" rule.sourceFile ++
    (match rule.source with
      | some source => [("source", source.toValue)]
      | none => []) ++
    optionalField "generator" rule.generator ++
    [("param_format", fields (rule.formats.toList.map fun entry => (entry.1, .text entry.2)))])

/-- A declaration of members. -/
def MemberClass.toValue (member : MemberClass) : Value := fields [
  ("node", .text member.node),
  ("nodes", texts member.nodes),
  ("interface", .text member.interface),
  ("interfaces", texts member.interfaces),
  ("connection", .text member.connection),
  ("connections", texts member.connections),
  ("include_self", .bool member.includeSelf),
  templatesEntry member.templates]

/-- A declaration of neighbors. -/
def NeighborClass.toValue (neighbor : NeighborClass) : Value := fields [
  ("layer", .text neighbor.layer), templatesEntry neighbor.templates]

/-- The declarations of neighbors of a class. -/
def neighborsEntry (neighbors : List NeighborClass) : String × Value :=
  ("neighbors", .list (neighbors.map NeighborClass.toValue))

/-- The declarations of members of a class. -/
def membersEntry (members : List MemberClass) : String × Value :=
  ("classmembers", .list (members.map MemberClass.toValue))

/-- A class of the network. -/
def NetworkClass.toValue (definition : NetworkClass) : Value := fields [
  ("name", .text definition.name),
  ("values", tableValue definition.values),
  templatesEntry definition.templates]

/-- A class of nodes. -/
def NodeClass.toValue (definition : NodeClass) : Value := fields (
  [("name", .text definition.name),
    ("primary", .bool definition.primary),
    ("virtual", .bool definition.isVirtual),
    ("policy", texts definition.policies),
    ("params", texts definition.params),
    ("values", tableValue definition.values),
    ("interface_policy", texts definition.interfacePolicies),
    templatesEntry definition.templates,
    membersEntry definition.members] ++
    optionalField "prefix" definition.stem ++
    optionalField "mgmt_interfaceclass" definition.managementClass ++
    [("tinet", tableValue definition.tinet), ("clab", tableValue definition.clab)])

/-- A class of interfaces. -/
def InterfaceClass.toValue (definition : InterfaceClass) : Value := fields (
  [("name", .text definition.name),
    ("primary", .bool definition.primary),
    ("virtual", .bool definition.isVirtual),
    ("policy", texts definition.policies),
    ("params", texts definition.params),
    ("values", tableValue definition.values),
    templatesEntry definition.templates,
    neighborsEntry definition.neighbors,
    membersEntry definition.members,
    ("layers", texts definition.layers)] ++
    optionalField "prefix" definition.stem ++
    [("tinet", tableValue definition.tinet), ("clab", tableValue definition.clab)])

/-- A class of connections. -/
def ConnectionClass.toValue (definition : ConnectionClass) : Value := fields (
  [("name", .text definition.name),
    ("primary", .bool definition.primary),
    ("virtual", .bool definition.isVirtual),
    ("policy", texts definition.policies),
    ("layers", texts definition.layers),
    ("params", texts definition.params),
    ("values", tableValue definition.values),
    templatesEntry definition.templates,
    neighborsEntry definition.neighbors,
    membersEntry definition.members] ++
    optionalField "prefix" definition.stem ++
    [("tinet", tableValue definition.tinet), ("clab", tableValue definition.clab)])

/-- A class of groups. -/
def GroupClass.toValue (definition : GroupClass) : Value := fields [
  ("name", .text definition.name),
  ("virtual", .bool definition.isVirtual),
  ("params", texts definition.params),
  ("values", tableValue definition.values),
  templatesEntry definition.templates]

/-- A class of segments. -/
def SegmentClass.toValue (definition : SegmentClass) : Value := fields [
  ("name", .text definition.name),
  ("layer", .text definition.layer),
  ("params", texts definition.params),
  templatesEntry definition.templates]

/-- The word for how paths are resolved. -/
def PathMode.word : PathMode -> String
  | .working => "default"
  | .beside => "local"

/-- Settings of the whole network. -/
def GlobalSettings.toValue (settings : GlobalSettings) : Value := fields (
  [("path", .text settings.path.word)] ++
    optionalField "mountsourcepath" settings.mountSource ++
    [("nodeautoname", .bool settings.renamesNodes)])

/-- A file that nodes receive. -/
def FileDefinition.toValue (file : FileDefinition) : Value := fields (
  [("name", .text file.name)] ++ optionalField "path" file.path ++
    optionalField "format" file.format ++ [("formats", texts file.formats)] ++
    optionalField "scope" file.scope)

/-- A configuration. -/
def Config.toValue (config : Config) : Value := fields (
  [("name", .text config.name),
    ("module", texts config.modules),
    ("global", config.settings.toValue),
    ("file", .list (config.files.map FileDefinition.toValue)),
    ("layer", .list (config.layers.map Layer.toValue))] ++
    (match config.management with
      | some management => [("mgmt_layer", management.toValue)]
      | none => []) ++
    [("param_rule", .list (config.rules.map ParameterRule.toValue)),
      ("networkclass", .list (config.networkClasses.map NetworkClass.toValue)),
      ("nodeclass", .list (config.nodeClasses.map NodeClass.toValue)),
      ("interfaceclass", .list (config.interfaceClasses.map InterfaceClass.toValue)),
      ("connectionclass", .list (config.connectionClasses.map ConnectionClass.toValue)),
      ("groupclass", .list (config.groupClasses.map GroupClass.toValue)),
      ("segmentclass", .list (config.segmentClasses.map SegmentClass.toValue))])

end TopoPlan
