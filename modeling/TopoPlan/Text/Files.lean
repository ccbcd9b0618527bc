import TopoPlan.Data.Json
import TopoPlan.Data.Yaml.Reader
import TopoPlan.Error

/-!
# Text files

What a compilation may ask of the files around it: the text of a file by its path, and what a
text in YAML or JSON holds.  The readers of these two formats are arguments: `Yaml.read?` refuses
some of YAML, and `Json.parse?` takes the nearest of all numbers where other readers may take
one beside it.  What is shown for all text files holds whatever their readers accept.
-/

namespace TopoPlan

/-- The texts of files by path, and readers of documents. -/
structure TextFiles where
  /-- The text of a file, or why it cannot be read. -/
  text : String -> Except FileFault String
  /-- The document of a text in YAML. -/
  yaml : String -> Option Doc := Yaml.read?
  /-- The value of a text in JSON. -/
  json : String -> Option Value := Json.parse?

instance : CoeFun TextFiles fun _ => String -> Except FileFault String := ⟨TextFiles.text⟩

/-- No file exists. -/
def TextFiles.none : TextFiles where
  text _ := .error .notFound

/-- Read a source file. -/
def TextFiles.source (files : TextFiles) (path : String) : Except CompileError String :=
  match files path with
  | .ok content => .ok content
  | .error fault => .error (.sourceFile path fault)

/-- The lines of a text that are not empty, without carriage returns at their ends. -/
def contentLines (content : String) : List (List Char) :=
  ((Text.lines content.toList).map (Text.dropTail (· == '\r'))).filter fun line => !line.isEmpty

end TopoPlan
