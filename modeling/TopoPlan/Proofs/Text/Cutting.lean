import Mathlib.Tactic.Common
import TopoPlan.Text.Blank

/-!
# Cutting texts

A text that was put together from parts is cut into these parts again.
-/

namespace TopoPlan.Text

/-- A text is cut at the first separator. -/
theorem splitOnce_append (separator : Char) {before : List Char} (absent : separator ∉ before)
    (after : List Char) :
    splitOnce separator (before ++ separator :: after) = some (before, after) := by
  induction before with
  | nil => simp [splitOnce]
  | cons character rest inductionHypothesis =>
    rw [List.mem_cons, not_or] at absent
    have following := inductionHypothesis absent.2
    simp [splitOnce, Ne.symm absent.1, following]

/-- A text is cut at the first separator. -/
theorem cutOnce_append (separator : Char) {before : String} (absent : separator ∉ before.toList)
    (after : String) :
    cutOnce separator (before ++ String.singleton separator ++ after) = some (before, after) := by
  have parts : (before ++ String.singleton separator ++ after).toList =
      before.toList ++ separator :: after.toList := by
    simp
  rw [cutOnce, parts, splitOnce_append separator absent, Option.map_some, String.ofList_toList,
    String.ofList_toList]

/-- A text without separator is not cut. -/
theorem splitOnce_eq_none {separator : Char} {text : List Char} (absent : separator ∉ text) :
    splitOnce separator text = none := by
  induction text with
  | nil => rfl
  | cons character rest inductionHypothesis =>
    rw [List.mem_cons, not_or] at absent
    rw [splitOnce, if_neg (Ne.symm absent.1), inductionHypothesis absent.2, Option.map_none]

/-- A text without the separator is not cut. -/
theorem cutOnce_eq_none {separator : Char} {text : String} (absent : separator ∉ text.toList) :
    cutOnce separator text = none := by
  rw [cutOnce, splitOnce_eq_none absent, Option.map_none]

/-- What follows a start is found. -/
theorem afterStart?_append (start rest : List Char) :
    afterStart? start (start ++ rest) = some rest := by
  induction start with
  | nil => rfl
  | cons character start inductionHypothesis => simp [afterStart?, inductionHypothesis]

/-- What follows the start of a text that begins with it. -/
theorem after?_append (start rest : String) : after? start (start ++ rest) = some rest := by
  rw [after?, String.toList_append, afterStart?_append, Option.map_some, String.ofList_toList]

/-- A text that begins with another character does not have the start. -/
theorem after?_eq_none {start text : String} {first : Char}
    (begins : start.toList.head? = some first) (other : text.toList.head? ≠ some first) :
    after? start text = none := by
  rw [after?, Option.map_eq_none_iff]
  obtain ⟨more, starts⟩ := List.head?_eq_some_iff.mp begins
  rw [starts]
  cases characters : text.toList with
  | nil => rfl
  | cons character rest =>
    rw [characters, List.head?_cons] at other
    rw [afterStart?, if_neg fun same => other (congrArg some same.symm)]

/-- Texts with one start are told apart by what follows it. -/
theorem append_inj_right {start left right : String} (same : start ++ left = start ++ right) :
    left = right := by
  have rest := congrArg (after? start) same
  rw [after?_append, after?_append] at rest
  exact Option.some.inj rest

/-- What is found follows the start. -/
theorem eq_append_of_afterStart? {start text rest : List Char}
    (found : afterStart? start text = some rest) : text = start ++ rest := by
  induction start generalizing text with
  | nil =>
    cases found
    rfl
  | cons expected start inductionHypothesis =>
    cases text with
    | nil => cases found
    | cons character text =>
      unfold afterStart? at found
      split at found
      case isTrue same => rw [same, inductionHypothesis found, List.cons_append]
      case isFalse => cases found

/-- A text that has a start consists of it and of what follows. -/
theorem eq_append_of_after? {start text rest : String} (found : after? start text = some rest) :
    text = start ++ rest := by
  obtain ⟨characters, cut, rfl⟩ := Option.map_eq_some_iff.mp found
  rw [← String.toList_inj, String.toList_append, String.toList_ofList]
  exact eq_append_of_afterStart? cut

end TopoPlan.Text
