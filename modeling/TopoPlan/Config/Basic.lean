import TopoPlan.Config.Class
import TopoPlan.Config.Layer
import TopoPlan.Config.Rule
import TopoPlan.Text.Path

/-!
# Configurations

A configuration holds the layers, parameter rules and class definitions that a
compilation refers to by name.  A look-up by name takes the first definition.
-/

namespace TopoPlan

/-- How relative paths are resolved. -/
inductive PathMode where
  /-- Relative to the working directory. -/
  | working
  /-- Relative to the directory of the configuration. -/
  | beside
  deriving DecidableEq, Inhabited

/-- Settings of the whole network. -/
structure GlobalSettings where
  path : PathMode := .working
  mountSource : Option String := none
  /-- Every node gets a new name, whatever name it has. -/
  renamesNodes : Bool := false
  deriving DecidableEq, Inhabited

/-- A file that nodes receive. -/
structure FileDefinition where
  name : String
  /-- Where a node mounts the file. -/
  path : Option String := none
  format : Option String := none
  formats : List String := []
  scope : Option String := none
  deriving DecidableEq, Inhabited

/-- A configuration. -/
structure Config where
  name : String := ""
  modules : List String := []
  settings : GlobalSettings := {}
  files : List FileDefinition := []
  layers : List Layer := []
  management : Option ManagementLayer := none
  rules : List ParameterRule := []
  networkClasses : List NetworkClass := []
  nodeClasses : List NodeClass := []
  interfaceClasses : List InterfaceClass := []
  connectionClasses : List ConnectionClass := []
  groupClasses : List GroupClass := []
  segmentClasses : List SegmentClass := []
  /-- The directory of the configuration, where it is known. -/
  directory : Option String := none
  deriving Inhabited

namespace Config

/-- The node class of a name. -/
def nodeClass? (config : Config) (name : String) : Option NodeClass :=
  config.nodeClasses.find? (·.name == name)

/-- The interface class of a name. -/
def interfaceClass? (config : Config) (name : String) : Option InterfaceClass :=
  config.interfaceClasses.find? (·.name == name)

/-- The connection class of a name. -/
def connectionClass? (config : Config) (name : String) : Option ConnectionClass :=
  config.connectionClasses.find? (·.name == name)

/-- The group class of a name. -/
def groupClass? (config : Config) (name : String) : Option GroupClass :=
  config.groupClasses.find? (·.name == name)

/-- The segment class of a name. -/
def segmentClass? (config : Config) (name : String) : Option SegmentClass :=
  config.segmentClasses.find? (·.name == name)

/-- Names and templates of the classes of one kind, in order. -/
def classTemplates (config : Config) : ClassKind -> List (String × List Template)
  | .network => config.networkClasses.map fun definition => (definition.name, definition.templates)
  | .node => config.nodeClasses.map fun definition => (definition.name, definition.templates)
  | .interface =>
    config.interfaceClasses.map fun definition => (definition.name, definition.templates)
  | .connection =>
    config.connectionClasses.map fun definition => (definition.name, definition.templates)
  | .group => config.groupClasses.map fun definition => (definition.name, definition.templates)
  | .segment => config.segmentClasses.map fun definition => (definition.name, definition.templates)

/-- Whether a class is defined. -/
def hasClass (config : Config) (kind : ClassKind) (name : String) : Bool :=
  (config.classTemplates kind).any (·.1 == name)

/-- The templates of a class. -/
def templatesOf (config : Config) (kind : ClassKind) (name : String) : List Template :=
  ((config.classTemplates kind).lookup name).getD []

/-- All templates that classes list themselves. -/
def allTemplates (config : Config) : List Template :=
  ClassKind.all.flatMap fun kind => (config.classTemplates kind).flatMap (·.2)

/-- The layer of a name. -/
def layer? (config : Config) (name : String) : Option Layer :=
  config.layers.find? (·.name == name)

/-- The policy of a name, with its layer. -/
def policy? (config : Config) (name : String) : Option (Layer × Policy) :=
  config.layers.findSome? fun layer =>
    (layer.policies.find? (·.name == name)).map fun policy => (layer, policy)

/-- The rule of a name. -/
def rule? (config : Config) (name : String) : Option ParameterRule :=
  config.rules.find? (·.name == name)

/-- The layers in which every connection takes part. -/
def defaultLayers (config : Config) : List String :=
  (config.layers.filter (·.connectsByDefault)).map (·.name)

/-- The place of a file that the configuration names. -/
def resolvePath (config : Config) (path : String) : String :=
  match config.settings.path, config.directory with
  | .beside, some directory => Path.join directory path
  | _, _ => path

/-- The places of all files that rules take their values from. -/
def sourcePaths (config : Config) : List String :=
  config.rules.flatMap fun rule =>
    (rule.sourceFile.toList ++ (rule.source.map fun source => source.file.getD "").toList).map
      config.resolvePath

end Config

end TopoPlan
