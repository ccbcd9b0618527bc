import TopoPlan.Loading
import TopoPlan.Plan

/-!
# The command line

A run loads a configuration and a topology, compiles them and gives out the plan as
JSON or YAML.  Options take a value, either after them or joined to them, and none
may be given twice.
-/

namespace TopoPlan

/-- How a plan is written. -/
inductive OutputFormat where
  | json
  | yaml
  deriving DecidableEq, Inhabited

namespace OutputFormat

/-- The format of a word. -/
def ofWord? : String -> Option OutputFormat
  | "json" => some .json
  | "yaml" => some .yaml
  | _ => none

/-- The text of a plan in a format. -/
def render (format : OutputFormat) (plan : Plan) : String :=
  match format with
  | .json => plan.toJson
  | .yaml => plan.toYaml

end OutputFormat

/-- The options of a run. -/
inductive RunOption where
  | config
  | topology
  | output
  | format
  deriving DecidableEq, Inhabited

namespace RunOption

/-- The options with their long names and their letters. -/
def all : List (RunOption × String × Char) :=
  [(.config, "config", 'c'), (.topology, "topology", 't'), (.output, "output", 'o'),
    (.format, "format", 'f')]

/-- The option of a long name. -/
def ofName? (name : String) : Option RunOption :=
  (all.find? fun entry => entry.2.1 == name).map (·.1)

/-- The option of a letter. -/
def ofLetter? (letter : Char) : Option RunOption :=
  (all.find? fun entry => entry.2.2 == letter).map (·.1)

/-- Whether an option may have a value. -/
def admits (option : RunOption) (value : String) : Bool :=
  match option with
  | .format => (OutputFormat.ofWord? value).isSome
  | _ => !value.isEmpty

end RunOption

/-- What the arguments ask for. -/
structure RunArguments where
  config : String
  topology : String
  output : Option String := none
  format : OutputFormat := .json
  deriving DecidableEq, Inhabited

/-- A command line as it was understood. -/
inductive RunRequest where
  /-- A text about the program is wanted. -/
  | information
  /-- The arguments do not make sense. -/
  | misuse
  | compile (arguments : RunArguments)
  deriving DecidableEq, Inhabited

namespace CommandLine

/-- An argument by its form. -/
inductive Word where
  /-- An option, with the value joined to it. -/
  | option (option : RunOption) (joined : Option String)
  | information
  /-- What follows are no options. -/
  | stop
  | unknown
  deriving DecidableEq, Inhabited

/-- An argument that starts with two dashes. -/
def longWord (content : List Char) : Word :=
  let (name, joined) :=
    match Text.splitOnce '=' content with
    | some (name, value) => (String.ofList name, some (String.ofList value))
    | none => (String.ofList content, none)
  match RunOption.ofName? name, joined with
  | some option, _ => .option option joined
  | none, none => if name == "help" || name == "version" then .information else .unknown
  | none, some _ => .unknown

/-- An argument that starts with one dash. -/
def shortWord (letter : Char) (rest : List Char) : Word :=
  match RunOption.ofLetter? letter with
  | some option =>
    match rest with
    | [] => .option option none
    | '=' :: value => .option option (some (String.ofList value))
    | value => .option option (some (String.ofList value))
  | none => if letter == 'h' || letter == 'V' then .information else .unknown

/-- The form of an argument. -/
def wordOf (argument : String) : Word :=
  match argument.toList with
  | ['-', '-'] => .stop
  | '-' :: '-' :: content => longWord content
  | '-' :: letter :: rest => shortWord letter rest
  | _ => .unknown

/-- Whether an argument can be the value of the option before it. -/
def isValue (argument : String) : Bool :=
  match argument.toList with
  | '-' :: _ :: _ => false
  | _ => true

/-- Values by option. -/
abbrev Given := List (RunOption × String)

/-- Why reading stops. -/
inductive Halt where
  | information
  | misuse

/-- Note the value of an option. -/
def note (given : Given) (option : RunOption) (value : String) : Except Halt Given :=
  if option.admits value && !given.any (·.1 = option) then .ok (given ++ [(option, value)])
  else .error .misuse

/-- Read arguments from left to right. -/
def readWords (given : Given) : List String -> Except Halt Given
  | [] => .ok given
  | argument :: rest =>
    match wordOf argument with
    | .information => .error .information
    | .unknown => .error .misuse
    | .stop => if rest.isEmpty then .ok given else .error .misuse
    | .option option (some value) => do
      let given <- note given option value
      readWords given rest
    | .option option none =>
      match rest with
      | [] => .error .misuse
      | value :: rest =>
        if isValue value then do
          let given <- note given option value
          readWords given rest
        else .error .misuse

/-- The run that given values describe, if nothing is missing. -/
def argumentsOf? (given : Given) : Option RunArguments := do
  let config <- given.lookup .config
  let topology <- given.lookup .topology
  let format := ((given.lookup .format).bind OutputFormat.ofWord?).getD .json
  pure { config, topology, output := given.lookup .output, format }

/-- Understand a command line. -/
def parse (arguments : List String) : RunRequest :=
  match readWords [] arguments with
  | .error .information => .information
  | .error .misuse => .misuse
  | .ok given =>
    match argumentsOf? given with
    | some run => .compile run
    | none => .misuse

/-- Why a run fails. -/
inductive RunFault where
  | load (fault : LoadFault)
  | prepare (error : CompileError)
  | compile (path : String) (error : CompileError)
  deriving DecidableEq, Inhabited

/-- The wording of a run fault. -/
def RunFault.message : RunFault -> String
  | .load fault => fault.message
  | .prepare error => "Failed to prepare configuration: " ++ error.message
  | .compile path error => s!"Failed to compile topology '{path}': {error.message}"

/-- The text that a run gives out. -/
def document (files : TextFiles) (arguments : RunArguments) : Except RunFault String := do
  let config <- (Loading.config files arguments.config).mapError .load
  let topology <- (Loading.topology files arguments.topology).mapError .load
  let compiler <- (Compiler.ofConfig config).mapError .prepare
  let plan <- (Plan.ofTopology compiler files topology).mapError (.compile arguments.topology)
  pure (arguments.format.render plan)

/-- What a finished run leaves: its status, its output and the files. -/
structure Outcome where
  status : Nat
  output : String := ""
  tree : FileTree

/-- The status of a run that succeeded. -/
def succeeded : Nat := 0

/-- The status of a run that failed. -/
def failed : Nat := 1

/-- The status of a run with wrong arguments. -/
def misused : Nat := 2

/-- Run a command line on a tree of files. -/
def run (tree : FileTree) (arguments : List String) : Outcome :=
  match parse arguments with
  | .information => { status := succeeded, tree }
  | .misuse => { status := misused, tree }
  | .compile arguments =>
    match document tree.readText arguments with
    | .error _ => { status := failed, tree }
    | .ok text =>
      match arguments.output with
      | none => { status := succeeded, output := text ++ "\n", tree }
      | some path =>
        match Loading.write tree path text with
        | .ok tree => { status := succeeded, tree }
        | .error _ => { status := failed, tree }

end CommandLine

end TopoPlan
