import TopoPlan.Config.Basic
import TopoPlan.Data.Csv
import TopoPlan.Data.Yaml.Printer
import TopoPlan.Rule.Row
import TopoPlan.Text.Files

/-!
# Sources of rows

The rows of a source are numbers of a range or a sequence, rows that the
configuration lists, or the contents of a file.  Rows are numbered from zero,
whatever their source.

Ends of ranges and sequences are signed numbers of 64 bits in a configuration.  A sequence is as
long as the difference of its ends, which is unbounded here: arithmetic in words of 64 bits gives
the same rows for all sequences whose difference fits a signed word, and for every range.
-/

namespace TopoPlan

/-- The formats of source files. -/
inductive FileFormat where
  | text
  | csv
  | yaml
  | json
  deriving DecidableEq, Inhabited

namespace FileFormat

/-- The format of a word; an unknown word means text. -/
def ofWord (word : String) : FileFormat :=
  let lower := Text.lowerAscii word
  if lower == "yaml" || lower == "yml" then .yaml
  else if lower == "json" then .json
  else if lower == "csv" then .csv
  else .text

/-- The format of a file: the one given, or the one of the extension. -/
def detect (path : String) (given : Option String) : FileFormat :=
  match given.filter (!·.isEmpty) with
  | some word => ofWord word
  | none => ofWord ((Path.extension? path).getD "")

end FileFormat

namespace Source

/-- The number of rows of a sequence that gives no positive length. -/
def defaultCount : Nat := 10

/-- One row for every line with content. -/
def textRows (content : String) : List Row :=
  (contentLines content).zipIdx.map fun entry => Row.single (String.ofList entry.1) entry.2

/-- The first line names the fields of the others. -/
def csvRows (content : String) : Except Csv.Fault (List Row) :=
  match contentLines content with
  | [] => .ok []
  | header :: lines => do
    let names <- Csv.split header
    let records <- Csv.records names.length lines
    pure (Row.number (records.map fun record => Table.setAll {} (names.zip record)))

/-- A row of typed values. -/
def rowOfValues (values : Table Value) : Row :=
  values.map fun _ value => value.parameterText

/-- One row for every mapping of a YAML list. -/
def yamlRows? (files : TextFiles) (content : String) : Option (List Row) := do
  let doc <- files.yaml content
  let items <- doc.list? (Doc.table? Doc.value?)
  pure (Row.number (items.map rowOfValues))

/-- The text of a JSON value in a row. -/
def jsonText : Value -> String
  | .null => ""
  | .text content => content
  | other => Json.compact other

/-- The row of a JSON object. -/
def jsonRow? : Value -> Option Row
  | .mapping entries =>
    some (Table.setAll {} ((Value.textEntries entries).map fun entry =>
      (entry.1, jsonText entry.2)))
  | _ => none

/-- One row for every object of a JSON list. -/
def jsonRows? (files : TextFiles) (content : String) : Option (List Row) := do
  match <- files.json content with
  | .list items =>
    let rows <- items.mapM fun item => jsonRow? item.sorted
    pure (Row.number rows)
  | _ => none

/-- The rows of a file with a given content. -/
def contentRows (files : TextFiles) (format : FileFormat) (path content : String) :
    Except CompileError (List Row) :=
  match format with
  | .text => .ok (textRows content)
  | .csv =>
    match csvRows content with
    | .ok rows => .ok rows
    | .error fault => .error (.sourceFormat path fault.message)
  | .yaml =>
    match yamlRows? files content with
    | some rows => .ok rows
    | none => .error (.sourceFormat path "failed to parse YAML")
  | .json =>
    match jsonRows? files content with
    | some rows => .ok rows
    | none => .error (.sourceFormat path "failed to parse JSON")

/-- The rows of a file. -/
def fileRows (files : TextFiles) (path : String) (format : Option String) :
    Except CompileError (List Row) := do
  let content <- files.source path
  contentRows files (FileFormat.detect path format) path content

/-- The rows of a range: its numbers from start to end, both included. -/
def rangeRows (start stop : Int) : List Row :=
  (List.range (stop - start + 1).toNat).map fun (index : Nat) =>
    Row.single (Numeral.integerText (start + index)) index

/-- The rows of a sequence: as many numbers from zero as it is long. -/
def sequenceRows (start stop : Int) : List Row :=
  let count := if stop - start <= 0 then defaultCount else (stop - start).toNat
  (List.range count).map fun index => Row.single (Numeral.text index) index

/-- The rows of a source. -/
def rows (config : Config) (files : TextFiles) (source : ValueSource) :
    Except CompileError (List Row) :=
  match source.kind with
  | .range => .ok (rangeRows source.start source.stop)
  | .sequence => .ok (sequenceRows source.start source.stop)
  | .list => .ok (Row.number (source.values.map rowOfValues))
  | .file => fileRows files (config.resolvePath (source.file.getD "")) source.format

/-- The rows of the source of a rule, with derived fields. -/
def ruleRows (config : Config) (files : TextFiles) (rule : ParameterRule) (source : ValueSource) :
    Except CompileError (List Row) :=
  (rows config files source).map fun found => found.map (Row.derive rule.formats)

/-- The rows of all rules with a source; the first rule that fails counts. -/
def allRows (config : Config) (files : TextFiles) : Except CompileError (Table (List Row)) :=
  config.rules.foldlM
    (fun (found : Table (List Row)) rule =>
      match rule.source with
      | none => pure found
      | some source => do
        let rows <- ruleRows config files rule source
        pure (found.insert rule.name rows))
    {}

end Source

end TopoPlan
