import TopoPlan.Config.Basic
import TopoPlan.Text.Files

/-!
# Candidates of plain rules

A plain rule gives different values to the objects that request it: consecutive
numbers between a header and a footer, or the different lines of a file.

The limits of a rule are signed numbers of 64 bits in a configuration.  The numbers that it gives
are unbounded here: arithmetic in words of 64 bits gives the same ones as long as the last of them
is at most `wordMax`.
-/

namespace TopoPlan.Candidate

/-- The largest signed number of 64 bits. -/
def wordMax : Int := Int.pow 2 63 - 1

/-- Whether a rule with an upper limit has so many numbers; without a positive limit
it has any number. -/
def hasNumbers (rule : ParameterRule) (count : Nat) : Bool :=
  rule.max <= 0 || (count : Int) <= min (rule.max - rule.min) wordMax

/-- The value made of a number. -/
def numbered (rule : ParameterRule) (number : Int) : String :=
  rule.header ++ Numeral.integerText number ++ rule.footer

/-- Values made of consecutive numbers. -/
def integers (rule : ParameterRule) (count : Nat) : Except CompileError (List String) :=
  if hasNumbers rule count then
    .ok ((List.range count).map fun (index : Nat) => numbered rule (rule.min + index))
  else .error (.notEnoughCandidates rule.name count)

/-- The entries of a list without those that occur earlier. -/
def firstOccurrences : (seen : List (List Char)) -> List (List Char) -> List (List Char)
  | _, [] => []
  | seen, line :: rest =>
    if seen.contains line then firstOccurrences seen rest
    else line :: firstOccurrences (line :: seen) rest

/-- Different lines of a file. -/
def lines (config : Config) (files : TextFiles) (rule : ParameterRule) (count : Nat) :
    Except CompileError (List String) := do
  match rule.sourceFile with
  | none => throw (.invalidRule rule.name "file rule requires sourcefile")
  | some path =>
    let content <- files.source (config.resolvePath path)
    let values := (firstOccurrences [] (contentLines content)).take count
    if values.length < count then throw (.notEnoughCandidates rule.name count)
    else pure (values.map String.ofList)

/-- So many different values of a rule. -/
def values (config : Config) (files : TextFiles) (rule : ParameterRule) (count : Nat) :
    Except CompileError (List String) :=
  match rule.kind with
  | .integer => integers rule count
  | .file => lines config files rule count

end TopoPlan.Candidate
