import TopoPlan.Config.Basic
import TopoPlan.Data.Record

/-!
# Reading configurations

The written form of each part of a configuration.  A part that does not fit makes
the whole document unreadable.
-/

namespace TopoPlan

open Record Doc

/-- A text with the empty text as default. -/
def textField (name : String) : FieldReader String := defaulted name "" text?

/-- A list of texts with the empty list as default. -/
def textsField (name : String) : FieldReader (List String) := defaulted name [] texts?

/-- A truth value with `false` as default. -/
def flagField (name : String) : FieldReader Bool := defaulted name false bool?

/-- A mapping to values with the empty mapping as default. -/
def valuesField (name : String) : FieldReader (Table Value) :=
  defaulted name {} (table? value?)

/-- A list with the empty list as default. -/
def listField {α : Type} (name : String) (item? : Doc -> Option α) : FieldReader (List α) :=
  defaulted name [] (list? item?)

/-- A config template. -/
def Template.read? : Doc -> Option Template := Record.read? do
  let style <- textField "style"
  let sortGroup <- textField "sort_group"
  let file <- textField "file"
  let name <- textField "name"
  let group <- textField "group"
  let priority <- defaulted "priority" 0 (integerIn? (-(Int.pow 2 31)) (Int.pow 2 31 - 1))
  let depends <- textsField "depends"
  let node <- textField "node"
  let nodes <- textsField "nodes"
  let neighborNode <- textField "neighbor_node"
  let neighborNodes <- textsField "neighbor_nodes"
  let empty <- flagField "empty"
  let platform <- textsField "platform"
  let format <- textField "format"
  let formats <- textsField "formats"
  let lines <- textsField "template"
  let sourceFile <- textField "sourcefile"
  pure {
    style, sortGroup, file, name, group, priority, depends, node, nodes, neighborNode,
    neighborNodes, empty, platform, format, formats, lines, sourceFile }

/-- The templates of a class. -/
def templatesField : FieldReader (List Template) := listField "config" Template.read?

/-- A policy. -/
def Policy.read? : Doc -> Option Policy := Record.read? do
  let name <- required "name" text?
  let kind <- defaulted "type" .ip
    (oneOf? [("ip", PolicyKind.ip), ("loopback", PolicyKind.loopback)])
  let range <- required "range" text?
  let subnetLength <- defaulted "prefix" 0 (integerIn? 0 255)
  pure { name, kind, range, subnetLength := subnetLength.toNat }

/-- A layer. -/
def Layer.read? : Doc -> Option Layer := Record.read? do
  let name <- required "name" text?
  let connectsByDefault <- flagField "default_connect"
  let policies <- listField "policy" Policy.read?
  pure { name, connectsByDefault, policies }

/-- A management layer. -/
def ManagementLayer.read? : Doc -> Option ManagementLayer := Record.read? do
  let name <- required "name" text?
  let range <- required "range" text?
  let gateway <- optional "gateway" text?
  let interfaceName <- optional "interface_name" text?
  pure { name, range, gateway, interfaceName }

/-- A source of records. -/
def ValueSource.read? : Doc -> Option ValueSource := Record.read? do
  let kind <- required "type" (oneOf? [("range", SourceKind.range),
    ("sequence", SourceKind.sequence), ("list", SourceKind.list), ("file", SourceKind.file)])
  let start <- defaulted "start" 0 word?
  let stop <- defaulted "end" 0 word?
  let values <- listField "values" (table? value?)
  let file <- optional "file" text?
  let format <- optional "format" text?
  pure { kind, start, stop, values, file, format }

/-- A parameter rule. -/
def ParameterRule.read? : Doc -> Option ParameterRule := Record.read? do
  let name <- required "name" text?
  let assign <- defaulted "assign" .object (oneOf? [("object", AssignMode.object),
    ("segment", AssignMode.segment), ("connection", AssignMode.connection)])
  let layer <- optional "layer" text?
  let kind <- defaulted "type" .integer (oneOf? [("integer", CandidateKind.integer),
    ("int", CandidateKind.integer), ("file", CandidateKind.file)])
  let max <- defaulted "max" 0 word?
  let min <- defaulted "min" 0 word?
  let header <- textField "header"
  let footer <- textField "footer"
  let sourceFile <- optional "sourcefile" text?
  let source <- optional "source" ValueSource.read?
  let generator <- optional "generator" text?
  let formats <- defaulted "param_format" {} (table? text?)
  pure {
    name, assign, layer, kind, max, min, header, footer, sourceFile, source, generator, formats }

/-- A declaration of members. -/
def MemberClass.read? : Doc -> Option MemberClass := Record.read? do
  let node <- textField "node"
  let nodes <- textsField "nodes"
  let interface <- textField "interface"
  let interfaces <- textsField "interfaces"
  let connection <- textField "connection"
  let connections <- textsField "connections"
  let includeSelf <- flagField "include_self"
  let templates <- templatesField
  pure {
    node, nodes, interface, interfaces, connection, connections, includeSelf, templates }

/-- A declaration of neighbors. -/
def NeighborClass.read? : Doc -> Option NeighborClass := Record.read? do
  let layer <- required "layer" text?
  let templates <- templatesField
  pure { layer, templates }

/-- A class of the network. -/
def NetworkClass.read? : Doc -> Option NetworkClass := Record.read? do
  let name <- required "name" text?
  let values <- valuesField "values"
  let templates <- templatesField
  pure { name, values, templates }

/-- A class of nodes. -/
def NodeClass.read? : Doc -> Option NodeClass := Record.read? do
  let name <- required "name" text?
  let primary <- flagField "primary"
  let isVirtual <- flagField "virtual"
  let policies <- textsField "policy"
  let params <- textsField "params"
  let values <- valuesField "values"
  let interfacePolicies <- textsField "interface_policy"
  let templates <- templatesField
  let members <- listField "classmembers" MemberClass.read?
  let stem <- optional "prefix" text?
  let managementClass <- optional "mgmt_interfaceclass" text?
  let tinet <- valuesField "tinet"
  let clab <- valuesField "clab"
  pure {
    name, primary, isVirtual, policies, params, values, interfacePolicies, templates, members,
    stem, managementClass, tinet, clab }

/-- A class of interfaces. -/
def InterfaceClass.read? : Doc -> Option InterfaceClass := Record.read? do
  let name <- required "name" text?
  let primary <- flagField "primary"
  let isVirtual <- flagField "virtual"
  let policies <- textsField "policy"
  let params <- textsField "params"
  let values <- valuesField "values"
  let templates <- templatesField
  let neighbors <- listField "neighbors" NeighborClass.read?
  let members <- listField "classmembers" MemberClass.read?
  let layers <- textsField "layers"
  let stem <- optional "prefix" text?
  let tinet <- valuesField "tinet"
  let clab <- valuesField "clab"
  pure {
    name, primary, isVirtual, policies, params, values, templates, neighbors, members, layers,
    stem, tinet, clab }

/-- A class of connections. -/
def ConnectionClass.read? : Doc -> Option ConnectionClass := Record.read? do
  let name <- required "name" text?
  let primary <- flagField "primary"
  let isVirtual <- flagField "virtual"
  let policies <- textsField "policy"
  let layers <- textsField "layers"
  let params <- textsField "params"
  let values <- valuesField "values"
  let templates <- templatesField
  let neighbors <- listField "neighbors" NeighborClass.read?
  let members <- listField "classmembers" MemberClass.read?
  let stem <- optional "prefix" text?
  let tinet <- valuesField "tinet"
  let clab <- valuesField "clab"
  pure {
    name, primary, isVirtual, policies, layers, params, values, templates, neighbors, members,
    stem, tinet, clab }

/-- A class of groups. -/
def GroupClass.read? : Doc -> Option GroupClass := Record.read? do
  let name <- required "name" text?
  let isVirtual <- flagField "virtual"
  let params <- textsField "params"
  let values <- valuesField "values"
  let templates <- templatesField
  pure { name, isVirtual, params, values, templates }

/-- A class of segments. -/
def SegmentClass.read? : Doc -> Option SegmentClass := Record.read? do
  let name <- required "name" text?
  let layer <- required "layer" text?
  let params <- textsField "params"
  let templates <- templatesField
  pure { name, layer, params, templates }

/-- Settings of the whole network. -/
def GlobalSettings.read? : Doc -> Option GlobalSettings := Record.read? do
  let path <- defaulted "path" .working
    (oneOf? [("default", PathMode.working), ("local", PathMode.beside)])
  let mountSource <- optional "mountsourcepath" text?
  let renamesNodes <- flagField "nodeautoname"
  pure { path, mountSource, renamesNodes }

/-- A file that nodes receive. -/
def FileDefinition.read? : Doc -> Option FileDefinition := Record.read? do
  let name <- required "name" text?
  let path <- optional "path" text?
  let format <- optional "format" text?
  let formats <- textsField "formats"
  let scope <- optional "scope" text?
  pure { name, path, format, formats, scope }

/-- A configuration. -/
def Config.read? : Doc -> Option Config := Record.read? do
  let name <- textField "name"
  let modules <- textsField "module"
  let settings <- defaulted "global" {} GlobalSettings.read?
  let files <- listField "file" FileDefinition.read?
  let layers <- listField "layer" Layer.read?
  let management <- optional "mgmt_layer" ManagementLayer.read?
  let rules <- listField "param_rule" ParameterRule.read?
  let networkClasses <- listField "networkclass" NetworkClass.read?
  let nodeClasses <- listField "nodeclass" NodeClass.read?
  let interfaceClasses <- listField "interfaceclass" InterfaceClass.read?
  let connectionClasses <- listField "connectionclass" ConnectionClass.read?
  let groupClasses <- listField "groupclass" GroupClass.read?
  let segmentClasses <- listField "segmentclass" SegmentClass.read?
  pure {
    name, modules, settings, files, layers, management, rules, networkClasses, nodeClasses,
    interfaceClasses, connectionClasses, groupClasses, segmentClasses }

end TopoPlan
