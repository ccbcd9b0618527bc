import TopoPlan.Extension.Containerlab

/-!
# Extensions

An extension adds classes, generators, parameters and requirements to a compilation.
A configuration selects extensions by name; the builtin one is always there.
-/

namespace TopoPlan

/-- The extensions. -/
inductive Extension where
  | builtin
  | containerlab
  deriving DecidableEq, Inhabited

namespace Extension

/-- The name of an extension. -/
def name : Extension -> String
  | .builtin => "builtin"
  | .containerlab => Containerlab.name

/-- The names by which configurations select extensions. -/
def selectors : List (String × Extension) :=
  [("builtin", .builtin), (Containerlab.name, .containerlab), ("clab", .containerlab)]

/-- The extension that a configuration selects. -/
def select (selector : String) : Except CompileError Extension :=
  match selectors.lookup selector with
  | some extension => .ok extension
  | none => .error (.unknownModule selector)

/-- Add an extension to a list, once. -/
def addOnce (extensions : List Extension) (extension : Extension) : List Extension :=
  if extensions.contains extension then extensions else extensions ++ [extension]

/-- The extensions of a configuration: the builtin one and those that it selects. -/
def ofConfig (config : Config) : Except CompileError (List Extension) :=
  config.modules.foldlM
    (fun extensions selector => (select selector).map (addOnce extensions)) [.builtin]

/-- Add the classes of an extension to a configuration. -/
def extendConfig (config : Config) : Extension -> Config
  | .builtin => config
  | .containerlab => Containerlab.extendConfig config

/-- Add the classes that an extension gives to all objects of a kind. -/
def extendClasses (extra : ExtraClasses) : Extension -> ExtraClasses
  | .builtin => extra
  | .containerlab => { extra with node := extra.node ++ [Containerlab.nodeClassName] }

/-- The generators of an extension. -/
def generators : Extension -> List (String × Generator)
  | .builtin => []
  | .containerlab => [(Containerlab.mountsGeneratorName, Containerlab.mountsGenerator)]

/-- Give the parameters of an extension. -/
def giveParameters (config : Config) (network : Network) : Extension -> Network
  | .builtin => network
  | .containerlab => Containerlab.giveParameters config network

/-- Check what an extension needs. -/
def check (config : Config) (network : Network) : Extension -> Except CompileError Unit
  | .builtin => .ok ()
  | .containerlab => Containerlab.check config network

end Extension

end TopoPlan
