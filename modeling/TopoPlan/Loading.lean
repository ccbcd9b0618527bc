import TopoPlan.Config.Decode
import TopoPlan.Config.Validity
import TopoPlan.Data.Json
import TopoPlan.Data.Yaml.Reader
import TopoPlan.Text.FileTree
import TopoPlan.Topology

/-!
# Loading

A configuration is a YAML file and a topology a YAML or JSON file.  Both are checked
when they are loaded, so what is loaded is valid.
-/

namespace TopoPlan

/-- Why a file cannot be loaded or written. -/
inductive LoadFault where
  | openConfig (path : String) (fault : FileFault)
  | parseConfig (path : String)
  | invalidConfig (path : String) (fault : ConfigFault)
  | readTopology (path : String) (fault : FileFault)
  | parseTopology (path : String)
  | invalidTopology (path : String) (fault : TopologyFault)
  | createDirectory (path : String) (fault : FileFault)
  | writeOutput (path : String) (fault : FileFault)
  deriving DecidableEq, Inhabited

/-- The wording of a load fault. -/
def LoadFault.message : LoadFault -> String
  | .openConfig path fault => s!"Failed to open configuration file '{path}': {fault.message}"
  | .parseConfig path => s!"Failed to parse configuration file '{path}'"
  | .invalidConfig path fault => s!"Invalid configuration in '{path}': {fault.message}"
  | .readTopology path fault => s!"Failed to read topology file '{path}': {fault.message}"
  | .parseTopology path => s!"Failed to parse topology file '{path}'"
  | .invalidTopology path fault => s!"Invalid topology in '{path}': {fault.message}"
  | .createDirectory path fault =>
    s!"Failed to create output directory '{path}': {fault.message}"
  | .writeOutput path fault => s!"Failed to write output file '{path}': {fault.message}"

namespace Loading

/-- A configuration in a YAML text. -/
def configOfText? (files : TextFiles) (content : String) : Option Config := do
  let doc <- files.yaml content
  Config.read? doc

/-- The text of a configuration file; a file that can be opened but not read is not
well formed. -/
def configText (files : TextFiles) (path : String) : Except LoadFault String :=
  match files path with
  | .ok content => .ok content
  | .error .isDirectory | .error .invalidText => .error (.parseConfig path)
  | .error fault => .error (.openConfig path fault)

/-- Load and check a configuration. -/
def config (files : TextFiles) (path : String) : Except LoadFault Config := do
  let content <- configText files path
  match configOfText? files content with
  | none => throw (.parseConfig path)
  | some parsed =>
    let parsed := { parsed with directory := Path.parent? path }
    match parsed.validate with
    | .ok _ => pure parsed
    | .error fault => throw (.invalidConfig path fault)

/-- Whether a topology file holds JSON. -/
def holdsJson (path : String) : Bool :=
  (Path.extension? path).any fun extension => Text.lowerAscii extension == "json"

/-- The document of a topology file. -/
def topologyDoc? (files : TextFiles) (path content : String) : Option Doc :=
  if holdsJson path then (files.json content).map Doc.ofValue else files.yaml content

/-- Load and check a topology. -/
def topology (files : TextFiles) (path : String) : Except LoadFault Topology := do
  match files path with
  | .error fault => throw (.readTopology path fault)
  | .ok content =>
    match (topologyDoc? files path content).bind Topology.read? with
    | none => throw (.parseTopology path)
    | some parsed =>
      match parsed.fault? with
      | none => pure parsed
      | some fault => throw (.invalidTopology path fault)

/-- The directory that an output file needs, if it names one. -/
def outputDirectory? (path : String) : Option String :=
  (Path.parent? path).filter fun directory => !directory.isEmpty

/-- Write an output file and the directories that it needs. -/
def write (tree : FileTree) (path content : String) : Except LoadFault FileTree := do
  let tree <-
    match outputDirectory? path with
    | none => pure tree
    | some directory => (tree.makeDirectory directory).mapError (.createDirectory directory)
  (tree.writeText path content).mapError (.writeOutput path)

end Loading

end TopoPlan
