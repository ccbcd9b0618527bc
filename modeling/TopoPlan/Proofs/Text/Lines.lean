import Mathlib.Data.List.DropRight
import TopoPlan.Text.Files

/-!
# Lines with content

The lines of a text are its pieces between line feeds, and those with content are what remains
of them without carriage returns at their ends.  A text that is put together from ended lines
has the lines with content that it was made of: `contentLines_append`.
-/

namespace TopoPlan

namespace Text

/-- A split at single characters. -/
theorem splitWhere_eq_splitOnP (test : Char → Bool) (text : List Char) :
    splitWhere test text = text.splitOnP test := by
  induction text with
  | nil => rfl
  | cons character rest inductionHypothesis =>
    obtain ⟨piece, pieces, same⟩ := List.exists_cons_of_ne_nil (List.splitOnP_ne_nil test rest)
    rw [List.splitOnP_cons_eq_if_modifyHead, same, splitWhere, inductionHypothesis, same]
    rfl

/-- A carriage return that belongs to a line end is one of those at the end of the line. -/
theorem rdropWhile_dropLast {line : List Char} (ended : line.getLast? = some '\r') :
    line.dropLast.rdropWhile (· == '\r') = line.rdropWhile (· == '\r') := by
  obtain ⟨start, rfl⟩ := List.getLast?_eq_some_iff.mp ended
  rw [List.dropLast_concat, List.rdropWhile_concat_pos _ _ _ rfl]

/-- How a line may end. -/
def lineEnds : List (List Char) := [['\n'], ['\r', '\n']]

end Text

/-- The lines with content are the pieces between line feeds that have something before the
carriage returns at their ends. -/
theorem contentLines_eq (content : String) :
    contentLines content =
      ((content.toList.splitOn '\n').map (List.rdropWhile (· == '\r'))).filter
        fun line => !line.isEmpty := by
  have trimmed (ended : List (List Char)) :
      (ended.map fun line => if line.getLast? == some '\r' then line.dropLast else line).map
          (List.rdropWhile (· == '\r')) = ended.map (List.rdropWhile (· == '\r')) := by
    rw [List.map_map]
    refine List.map_congr_left fun line _ => ?_
    dsimp only [Function.comp_apply]
    split
    case isTrue last => exact Text.rdropWhile_dropLast (beq_iff_eq.mp last)
    case isFalse => rfl
  unfold contentLines Text.lines
  rw [Text.splitWhere_eq_splitOnP]
  unfold List.splitOn
  obtain ⟨ended, last, pieces⟩ :=
    (List.eq_nil_or_concat' _).resolve_left (List.splitOnP_ne_nil (· == '\n') content.toList)
  rw [pieces]
  dsimp only
  rw [List.dropLast_concat, List.getLast?_concat, List.map_append, List.map_singleton,
    ← trimmed ended]
  cases last with
  | nil => rw [List.filter_append]; exact (List.append_nil _).symm
  | cons => rw [← List.map_singleton, ← List.map_append]; rfl

/-- A text without line feeds is one line at most. -/
theorem contentLines_single {line : List Char} (unbroken : '\n' ∉ line) :
    contentLines (String.ofList line) =
      [line.rdropWhile (· == '\r')].filter fun line => !line.isEmpty := by
  have whole : line.splitOn '\n' = [line] :=
    List.splitOnP_eq_singleton fun character listed => by
      rw [beq_eq_false_iff_ne]
      exact fun same => unbroken (same ▸ listed)
  rw [contentLines_eq, String.toList_ofList, whole, List.map_singleton]

/-- What a line feed ends comes before what follows it. -/
theorem contentLines_append_lineFeed (line rest : List Char) :
    contentLines (String.ofList (line ++ '\n' :: rest)) =
      contentLines (String.ofList line) ++ contentLines (String.ofList rest) := by
  have pieces : (line ++ '\n' :: rest).splitOn '\n' = line.splitOn '\n' ++ rest.splitOn '\n' :=
    List.splitOnP_append_cons _ _ (beq_self_eq_true '\n')
  simp only [contentLines_eq, String.toList_ofList, pieces, List.map_append, List.filter_append]

/-- A line that ends in either way comes before the lines of the rest. -/
theorem contentLines_append {line lineEnd : List Char} (unbroken : '\n' ∉ line)
    (ending : lineEnd ∈ Text.lineEnds) (rest : List Char) :
    contentLines (String.ofList (line ++ lineEnd ++ rest)) =
      contentLines (String.ofList line) ++ contentLines (String.ofList rest) := by
  rw [List.append_assoc]
  rcases List.mem_pair.mp ending with rfl | rfl
  · exact contentLines_append_lineFeed line rest
  · have returned : '\n' ∉ line ++ ['\r'] := by simpa using unbroken
    calc contentLines (String.ofList (line ++ ('\r' :: '\n' :: rest)))
        = contentLines (String.ofList (line ++ ['\r'] ++ '\n' :: rest)) := by
          rw [List.append_assoc, List.singleton_append]
      _ = contentLines (String.ofList (line ++ ['\r'])) ++ contentLines (String.ofList rest) :=
          contentLines_append_lineFeed (line ++ ['\r']) rest
      _ = contentLines (String.ofList line) ++ contentLines (String.ofList rest) := by
          rw [contentLines_single returned, contentLines_single unbroken,
            List.rdropWhile_concat_pos _ _ _ rfl]

end TopoPlan
