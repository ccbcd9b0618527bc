import Mathlib.Data.List.DropRight
import TopoPlan.Text.Blank

/-!
# Trimmed texts

A text is trimmed when there is no blank at either of its ends.  It is found again among blanks
put around it, and texts that a mark joins are trimmed when their parts are.
-/

namespace TopoPlan.Text

variable {text before after : List Char}

theorem trimList_nil : trimList [] = [] := rfl

/-- Trimming drops blanks at the front, then at the back. -/
theorem trimList_eq (text : List Char) :
    trimList text = (text.dropWhile isBlank).rdropWhile isBlank := rfl

/-- Nothing but blanks leaves nothing. -/
theorem trimList_of_blank (blank : ∀ character ∈ text, isBlank character = true) :
    trimList text = [] := by
  rw [trimList_eq, List.dropWhile_eq_nil_iff.mpr blank, List.rdropWhile_nil]

/-- A trimmed text loses nothing at either end. -/
theorem trimList_eq_self_iff :
    trimList text = text ↔ text.dropWhile isBlank = text ∧ text.rdropWhile isBlank = text := by
  rw [trimList_eq]
  constructor
  · intro trimmed
    have start : text.dropWhile isBlank = text := by
      refine (List.dropWhile_suffix isBlank).eq_of_length_le ?_
      calc text.length = ((text.dropWhile isBlank).rdropWhile isBlank).length := by rw [trimmed]
        _ ≤ (text.dropWhile isBlank).length := (List.rdropWhile_prefix isBlank _).length_le
    exact ⟨start, by rw [start] at trimmed; exact trimmed⟩
  · rintro ⟨start, stop⟩
    rw [start, stop]

/-- Blanks around a trimmed text are removed. -/
theorem trimList_append (trimmed : trimList text = text) (some : text ≠ [])
    (blankBefore : ∀ character ∈ before, isBlank character = true)
    (blankAfter : ∀ character ∈ after, isBlank character = true) :
    trimList (before ++ text ++ after) = text := by
  obtain ⟨start, stop⟩ := trimList_eq_self_iff.mp trimmed
  have first : (before ++ (text ++ after)).dropWhile isBlank = text ++ after := by
    rw [List.dropWhile_append_of_pos blankBefore, List.dropWhile_append, start,
      if_neg (by simpa using some)]
  have last : (text ++ after).rdropWhile isBlank = text.rdropWhile isBlank := by
    rw [List.rdropWhile, List.reverse_append,
      List.dropWhile_append_of_pos fun character listed =>
        blankAfter character (List.mem_reverse.mp listed)]
    rfl
  rw [List.append_assoc, trimList_eq, first, last, stop]

/-- Nothing is dropped before a mark that is no blank. -/
theorem dropWhile_join {left right : List Char} {mark : Char} (plain : isBlank mark = false)
    (start : left.dropWhile isBlank = left) :
    (left ++ mark :: right).dropWhile isBlank = left ++ mark :: right := by
  rw [List.dropWhile_append, start]
  split
  case isTrue none =>
    rw [List.isEmpty_iff.mp none, List.nil_append, List.dropWhile_cons_of_neg (by simp [plain])]
  case isFalse => rfl

/-- Trimmed texts with a mark between them are a trimmed text. -/
theorem trimList_join {left right : List Char} (mark : Char) (plain : isBlank mark = false)
    (first : trimList left = left) (second : trimList right = right) :
    trimList (left ++ mark :: right) = left ++ mark :: right := by
  obtain ⟨start, _⟩ := trimList_eq_self_iff.mp first
  obtain ⟨_, stop⟩ := trimList_eq_self_iff.mp second
  refine trimList_eq_self_iff.mpr ⟨dropWhile_join plain start, ?_⟩
  have backwards : (left ++ mark :: right).reverse = right.reverse ++ mark :: left.reverse := by
    simp
  rw [List.rdropWhile, backwards, dropWhile_join plain (List.reverse_eq_iff.mp stop), ← backwards,
    List.reverse_reverse]

end TopoPlan.Text
