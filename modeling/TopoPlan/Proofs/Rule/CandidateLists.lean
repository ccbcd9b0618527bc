import TopoPlan.Proofs.Rule.Candidates
import TopoPlan.Proofs.Text.Lines

/-!
# Lists of candidates

A rule gives the beginning of one list of candidates, which does not depend on how many are
asked for: consecutive numbers, or the different lines of a file.  `Listed` says which list
this is and where it ends, and `listed_of_words` that every rule whose numbers are words of 64
bits keeps to it.
-/

namespace TopoPlan

namespace Candidate

/-- The first occurrences are what remains without duplicates, apart from what was seen
before. -/
theorem firstOccurrences_eq (seen lines : List (List Char)) :
    firstOccurrences seen lines = (lines.filter fun line => !seen.contains line).eraseDups := by
  induction lines generalizing seen with
  | nil => rfl
  | cons line rest inductionHypothesis =>
    unfold firstOccurrences
    split
    case isTrue known =>
      rw [inductionHypothesis, List.filter_cons_of_neg (by simpa using known)]
    case isFalse new =>
      rw [inductionHypothesis, List.filter_cons_of_pos (by simpa using new), List.eraseDups_cons,
        List.filter_filter]
      congr 3
      funext other
      rw [List.contains_cons, Bool.not_or]

/-- The different lines of a text that have something before the carriage returns at their
ends, in the order in which they occur first. -/
def distinctLines (content : String) : List String :=
  (((content.toList.splitOn '\n').map (List.rdropWhile (· == '\r'))).filter
    fun line => !line.isEmpty).eraseDups.map String.ofList

/-- The distinct lines of a text are the first occurrences of its lines. -/
theorem distinctLines_eq (content : String) :
    distinctLines content = (firstOccurrences [] (contentLines content)).map String.ofList := by
  have all : (contentLines content).filter (fun line => !List.contains [] line) =
      contentLines content := List.filter_eq_self.mpr fun _ _ => rfl
  rw [firstOccurrences_eq, all, contentLines_eq]
  rfl

/-- The numbers that so many values of a rule are made of. -/
def numbers (rule : ParameterRule) (count : Nat) : List Int :=
  (List.range count).map fun (index : Nat) => rule.min + index

/-- The candidates of a rule are the beginning of one list. -/
structure Listed (config : Config) (files : TextFiles) (rule : ParameterRule) (count : Nat) :
    Prop where
  /-- There are as many as are asked for, all different. -/
  distinct : ∀ candidates, values config files rule count = .ok candidates →
    candidates.length = count ∧ candidates.Nodup
  /-- Who asks for fewer is given the first of them. -/
  beginning : ∀ candidates, values config files rule count = .ok candidates →
    ∀ fewer ≤ count, values config files rule fewer = .ok (candidates.take fewer)
  /-- Candidates without a file are numbers between a header and a footer. -/
  integers : rule.kind = .integer → ∀ candidates, values config files rule count = .ok candidates →
    candidates = (numbers rule count).map fun number =>
      rule.header ++ Numeral.integerText number ++ rule.footer
  /-- All numbers are words, and they stay below a positive limit. -/
  bounded : rule.kind = .integer → (∃ candidates, values config files rule count = .ok candidates) →
    ∀ number ∈ numbers rule count, Numeral.fitsWord number = true ∧
      (0 < rule.max → rule.min ≤ number ∧ number < rule.max)
  /-- There are numbers unless a positive limit leaves too few. -/
  limited : rule.kind = .integer → ((∃ candidates, values config files rule count = .ok candidates) ↔
    (0 < rule.max → count ≤ rule.max - rule.min))
  /-- Candidates of a file that can be read are its first different lines, if there are so
  many. -/
  lines : rule.kind = .file → ∀ path content, rule.sourceFile = some path →
    files (config.resolvePath path) = .ok content →
      values config files rule count =
        if (distinctLines content).length < count then .error (.notEnoughCandidates rule.name count)
        else .ok ((distinctLines content).take count)

variable {config : Config} {files : TextFiles} {rule : ParameterRule} {count : Nat}
  {candidates : List String}

/-! ## Numbers -/

/-- A number fits a word exactly when it lies in the range of 64 bits with sign. -/
theorem fitsWord_iff {value : Int} :
    Numeral.fitsWord value = true ↔ -Int.pow 2 63 ≤ value ∧ value < Int.pow 2 63 := by
  rw [Numeral.fitsWord, Bool.and_eq_true, decide_eq_true_iff, decide_eq_true_iff]

/-- The numbers of a rule are so many, from the least one upwards. -/
theorem mem_numbers {number : Int} :
    number ∈ numbers rule count ↔ rule.min ≤ number ∧ number < rule.min + count := by
  rw [numbers, List.mem_map]
  constructor
  · rintro ⟨index, listed, rfl⟩
    have below := List.mem_range.mp listed
    omega
  · rintro ⟨least, below⟩
    exact ⟨(number - rule.min).toNat, List.mem_range.mpr (by omega), by omega⟩

/-- Fewer numbers are the first of more. -/
theorem take_numbers {fewer : Nat} (less : fewer ≤ count) :
    (numbers rule count).take fewer = numbers rule fewer := by
  rw [numbers, ← List.map_take, List.take_range, Nat.min_eq_left less]
  rfl

/-- A count that is a word is only compared with what the limit of a rule leaves. -/
theorem hasNumbers_iff (few : Numeral.fitsWord count = true) :
    hasNumbers rule count = true ↔ (0 < rule.max → count ≤ rule.max - rule.min) := by
  have small : (count : Int) ≤ wordMax := by
    have below := (fitsWord_iff.mp few).2
    unfold wordMax
    omega
  rw [hasNumbers, Bool.or_eq_true, decide_eq_true_iff, decide_eq_true_iff, le_min_iff,
    and_iff_left small, ← not_lt, imp_iff_not_or]

/-- A rule of integers gives its numbers as long as there are enough. -/
theorem values_of_integer (kind : rule.kind = .integer) :
    values config files rule count = .ok candidates ↔
      hasNumbers rule count = true ∧ (numbers rule count).map (numbered rule) = candidates := by
  have made : values config files rule count =
      if hasNumbers rule count then .ok ((numbers rule count).map (numbered rule))
      else .error (.notEnoughCandidates rule.name count) := by
    rw [values, kind, numbers, List.map_map]
    rfl
  rw [made]
  split
  case isTrue enough => rw [Except.ok.injEq, and_iff_right enough]
  case isFalse few => exact ⟨fun failed => (nomatch failed), fun same => absurd same.1 few⟩

/-! ## Lines -/

/-- A rule of a file gives the first distinct lines as long as there are enough. -/
theorem values_of_file {path content : String} (kind : rule.kind = .file)
    (source : rule.sourceFile = some path)
    (readable : files (config.resolvePath path) = .ok content) :
    values config files rule count =
      if (distinctLines content).length < count then .error (.notEnoughCandidates rule.name count)
      else .ok ((distinctLines content).take count) := by
  have read : files.source (config.resolvePath path) = .ok content := by
    rw [TextFiles.source, readable]
  rw [values, kind]
  dsimp only
  rw [lines, source]
  dsimp only
  rw [read, distinctLines_eq, List.length_map, ← List.map_take]
  change (if ((firstOccurrences [] (contentLines content)).take count).length < count then
      Except.error (CompileError.notEnoughCandidates rule.name count)
    else .ok (((firstOccurrences [] (contentLines content)).take count).map String.ofList)) = _
  rw [List.length_take]
  congr 1
  exact propext ⟨fun few => by omega, fun few => by omega⟩

/-- A file that gives candidates can be read. -/
theorem exists_content (kind : rule.kind = .file)
    (run : values config files rule count = .ok candidates) :
    ∃ path content, rule.sourceFile = some path ∧
      files (config.resolvePath path) = .ok content := by
  rw [values, kind] at run
  dsimp only at run
  unfold lines at run
  split at run
  case h_1 => cases run
  case h_2 path source =>
    obtain ⟨content, read, _⟩ := Outcome.bind_eq_ok.mp run
    unfold TextFiles.source at read
    split at read
    case h_1 readable =>
      cases read
      exact ⟨path, content, source, readable⟩
    case h_2 => cases read

/-- A file that gives candidates gives fewer ones too. -/
theorem beginning_of_file {fewer : Nat} (kind : rule.kind = .file) (less : fewer ≤ count)
    (run : values config files rule count = .ok candidates) :
    values config files rule fewer = .ok (candidates.take fewer) := by
  obtain ⟨path, content, source, readable⟩ := exists_content kind run
  rw [values_of_file kind source readable] at run ⊢
  split at run
  case isTrue => cases run
  case isFalse enough =>
    cases run
    rw [if_neg (by omega), List.take_take, Nat.min_eq_left less]

/-- A rule that gives numbers gives fewer ones too. -/
theorem beginning_of_integer {fewer : Nat} (kind : rule.kind = .integer) (less : fewer ≤ count)
    (few : Numeral.fitsWord count = true) (run : values config files rule count = .ok candidates) :
    values config files rule fewer = .ok (candidates.take fewer) := by
  obtain ⟨enough, rfl⟩ := (values_of_integer kind).mp run
  have fewest : Numeral.fitsWord fewer = true := by
    have bounds := fitsWord_iff.mp few
    exact fitsWord_iff.mpr (by omega)
  refine (values_of_integer kind).mpr ⟨?_, by rw [← List.map_take, take_numbers less]⟩
  have limited := (hasNumbers_iff few).mp enough
  exact (hasNumbers_iff fewest).mpr fun limit => by
    have room := limited limit
    omega

/-- The candidates of a rule are the beginning of one list, if the numbers that it may be made
of are words of 64 bits: the count, the limits and, without a positive limit, the end of the
numbers. -/
theorem listed_of_words (config : Config) (files : TextFiles) (few : Numeral.fitsWord count = true)
    (least : Numeral.fitsWord rule.min = true) (most : Numeral.fitsWord rule.max = true)
    (room : rule.kind = .integer → rule.max ≤ 0 → Numeral.fitsWord (rule.min + count) = true) :
    Listed config files rule count where
  distinct _ run := values_eq_ok run
  beginning candidates run fewer less := by
    cases kind : rule.kind with
    | integer => exact beginning_of_integer kind less few run
    | file => exact beginning_of_file kind less run
  integers kind _ run := ((values_of_integer kind).mp run).2.symm
  bounded kind found number listed := by
    obtain ⟨_, run⟩ := found
    have enough := (hasNumbers_iff few).mp ((values_of_integer kind).mp run).1
    obtain ⟨above, below⟩ := mem_numbers.mp listed
    rw [fitsWord_iff] at least most ⊢
    rcases Int.lt_or_le 0 rule.max with limit | unlimited
    · have left := enough limit
      exact ⟨by omega, fun _ => by omega⟩
    · have last := fitsWord_iff.mp (room kind unlimited)
      exact ⟨by omega, fun limit => by omega⟩
  limited kind := by
    rw [← hasNumbers_iff few]
    exact ⟨fun ⟨_, run⟩ => ((values_of_integer kind).mp run).1,
      fun enough => ⟨_, (values_of_integer kind).mpr ⟨enough, rfl⟩⟩⟩
  lines kind _ _ source readable := values_of_file kind source readable

end Candidate

namespace Archive

open Candidate

/-- Numbers on both sides of zero, below a limit. -/
def offsets : ParameterRule :=
  { name := "offset", min := -2, max := 3, header := "v", footer := "%" }

/-- Numbers without a limit. -/
def serials : ParameterRule := { name := "serial", min := 9 }

/-- Lines of a file. -/
def names : ParameterRule := { name := "name", kind := .file, sourceFile := some "names" }

/-- A file in which lines are empty, repeated and ended in several ways. -/
def files : TextFiles where
  text _ := .ok "alpha\r\n\nbeta\n\r\nalpha\r\r\ngamma\r"

/-- A limit, no limit, and a file with three different names. -/
theorem listed_of_words_archive :
    Numeral.fitsWord (3 : Nat) = true ∧
      (Listed {} files offsets 3 ∧ values {} files offsets 3 = .ok ["v-2%", "v-1%", "v0%"] ∧
        values {} files offsets 6 = .error (.notEnoughCandidates "offset" 6)) ∧
      (Listed {} files serials 3 ∧ values {} files serials 3 = .ok ["9", "10", "11"]) ∧
      (Listed {} files names 3 ∧ values {} files names 3 = .ok ["alpha", "beta", "gamma"] ∧
        values {} files names 4 = .error (.notEnoughCandidates "name" 4)) := by
  have few : Numeral.fitsWord (3 : Nat) = true := by decide +kernel
  refine ⟨few, ⟨?_, by decide +kernel, by decide +kernel⟩, ⟨?_, by decide +kernel⟩, ?_,
    by decide +kernel, by decide +kernel⟩
  · exact listed_of_words {} files few (by decide +kernel) (by decide +kernel) (by decide +kernel)
  · exact listed_of_words {} files few (by decide +kernel) (by decide +kernel) (by decide +kernel)
  · exact listed_of_words {} files few (by decide +kernel) (by decide +kernel) (by decide +kernel)

end Archive

end TopoPlan
