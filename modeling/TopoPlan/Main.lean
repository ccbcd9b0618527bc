import TopoPlan.CommandLine

/-!
# The program

Runs a command line on the files of the system.  The files that a run may read are
read beforehand; the run itself only looks them up.
-/

open TopoPlan

/-- Why the system refuses a file. -/
def faultOf : IO.Error -> FileFault
  | .noFileOrDirectory .. => .notFound
  | .alreadyExists .. => .alreadyExists
  | .inappropriateType .. => .isDirectory
  | error => .other (toString error)

/-- Read the text of a file. -/
def readText (path : String) : IO (Except FileFault String) := do
  try
    let bytes <- IO.FS.readBinFile path
    match String.fromUTF8? bytes with
    | some content => pure (.ok content)
    | none => pure (.error .invalidText)
  catch error => pure (.error (faultOf error))

/-- Read files that are not known yet. -/
def gather (known : Table (Except FileFault String)) (paths : List String) :
    IO (Table (Except FileFault String)) :=
  paths.foldlM
    (fun (known : Table (Except FileFault String)) path => do
      if known.contains path then pure known
      else pure (known.insert path (<- readText path)))
    known

/-- Look files up among those that were read. -/
def filesIn (known : Table (Except FileFault String)) : TextFiles where
  text path := known.getD path (.error .notFound)

/-- The text of a run, made from the files that it needs. -/
def documentOf (arguments : RunArguments) : IO (Except CommandLine.RunFault String) := do
  let known <- gather {} [arguments.config, arguments.topology]
  match Loading.config (filesIn known) arguments.config with
  | .error fault => pure (.error (.load fault))
  | .ok config =>
    let known <- gather known config.sourcePaths
    pure (CommandLine.document (filesIn known) arguments)

/-- Write an output file and the directories that it needs. -/
def writeDocument (path content : String) : IO (Except LoadFault Unit) := do
  try
    match Loading.outputDirectory? path with
    | some directory => IO.FS.createDirAll directory
    | none => pure ()
  catch error =>
    return .error (.createDirectory ((Loading.outputDirectory? path).getD "") (faultOf error))
  try
    IO.FS.writeFile path content
    pure (.ok ())
  catch error => pure (.error (.writeOutput path (faultOf error)))

/-- Tell why a run failed. -/
def complain (message : String) : IO UInt32 := do
  IO.eprintln message
  pure (UInt32.ofNat CommandLine.failed)

/-- Finish a run: print its text or write it to a file. -/
def finish (arguments : RunArguments) (content : String) : IO UInt32 := do
  match arguments.output with
  | none =>
    IO.println content
    pure (UInt32.ofNat CommandLine.succeeded)
  | some path =>
    match <- writeDocument path content with
    | .ok _ => pure (UInt32.ofNat CommandLine.succeeded)
    | .error fault => complain fault.message

/-- How to use the program. -/
def usage : String :=
  "usage: --config FILE --topology FILE [--output FILE] [--format json|yaml]"

/-- Run the program. -/
def main (arguments : List String) : IO UInt32 := do
  match CommandLine.parse arguments with
  | .information =>
    IO.println usage
    pure (UInt32.ofNat CommandLine.succeeded)
  | .misuse =>
    IO.eprintln usage
    pure (UInt32.ofNat CommandLine.misused)
  | .compile run =>
    match <- documentOf run with
    | .ok content => finish run content
    | .error fault => complain fault.message
