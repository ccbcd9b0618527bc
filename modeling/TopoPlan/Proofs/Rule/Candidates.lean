import Mathlib.Data.List.Nodup
import TopoPlan.Proofs.Address.Digits
import TopoPlan.Proofs.Outcomes
import TopoPlan.Proofs.Text.Cutting
import TopoPlan.Rule.Candidate

/-!
# Different candidates

A plain rule gives as many candidates as it is asked for, and no two of them are the same,
whether they are numbers or the lines of a file: `values_eq_ok` says so.
-/

namespace TopoPlan

namespace Numeral

/-- The numeral of a natural number has no sign. -/
theorem minus_not_mem_text (value : Nat) : '-' ∉ (text value).toList := by
  intro sign
  rw [text, String.toList_ofList] at sign
  obtain ⟨digit, below, same⟩ := exists_digit_of_mem_toDigits (by decide) (by decide) sign
  interval_cases digit <;> simp [Nat.digitChar] at same

/-- The numerals of an integer below zero and of another one differ in the sign. -/
theorem minus_append_ne_text (left right : Nat) : "-" ++ text left ≠ text right := by
  intro same
  apply minus_not_mem_text right
  rw [← same, String.toList_append]
  exact List.mem_append_left _ (by decide)

/-- Different integers have different numerals. -/
theorem integerText_inj {left right : Int} (same : integerText left = integerText right) :
    left = right := by
  unfold integerText at same
  split at same
  case isTrue leftBelow =>
    split at same
    case isTrue rightBelow =>
      have sizes := text_inj (Text.append_inj_right same)
      omega
    case isFalse => exact (minus_append_ne_text _ _ same).elim
  case isFalse leftAbove =>
    split at same
    case isTrue => exact (minus_append_ne_text _ _ same.symm).elim
    case isFalse rightAbove =>
      have sizes := text_inj same
      omega

end Numeral

namespace Candidate

variable {config : Config} {files : TextFiles} {rule : ParameterRule} {count : Nat}
  {candidates : List String}

/-- Different numbers make different values. -/
theorem numbered_inj {left right : Int} (same : numbered rule left = numbered rule right) :
    left = right := by
  have texts := congrArg String.toList same
  rw [numbered, numbered, String.toList_append, String.toList_append, String.toList_append,
    String.toList_append, List.append_cancel_right_eq, List.append_cancel_left_eq,
    String.toList_inj] at texts
  exact Numeral.integerText_inj texts

/-- Lines that occurred earlier are left out, and so are those seen before. -/
theorem nodup_firstOccurrences (seen lines : List (List Char)) :
    (firstOccurrences seen lines).Nodup ∧ ∀ line ∈ firstOccurrences seen lines, line ∉ seen := by
  induction lines generalizing seen with
  | nil => exact ⟨List.nodup_nil, List.forall_mem_nil _⟩
  | cons line rest inductionHypothesis =>
    unfold firstOccurrences
    split
    case isTrue => exact inductionHypothesis seen
    case isFalse new =>
      obtain ⟨once, fresh⟩ := inductionHypothesis (line :: seen)
      have unseen : line ∉ seen := by simpa using new
      refine ⟨List.nodup_cons.mpr ⟨fun again => ?_, once⟩, List.forall_mem_cons.mpr
        ⟨unseen, fun other listed => ?_⟩⟩
      · exact fresh line again List.mem_cons_self
      · exact fun old => fresh other listed (List.mem_cons_of_mem _ old)

/-- Consecutive numbers. -/
theorem integers_eq_ok (run : integers rule count = .ok candidates) :
    candidates.length = count ∧ candidates.Nodup := by
  unfold integers at run
  split at run
  case isFalse => cases run
  case isTrue =>
    cases run
    refine ⟨by rw [List.length_map, List.length_range], ?_⟩
    apply List.nodup_range.map_on
    intro left _ right _ same
    have numbers := numbered_inj same
    omega

/-- Lines of a file. -/
theorem lines_eq_ok (run : lines config files rule count = .ok candidates) :
    candidates.length = count ∧ candidates.Nodup := by
  unfold lines at run
  split at run
  case h_1 => cases run
  case h_2 path =>
    obtain ⟨content, _, run⟩ := Outcome.bind_eq_ok.mp run
    dsimp only at run
    split at run
    case isTrue => cases run
    case isFalse enough =>
      cases run
      have most := List.length_take_le count (firstOccurrences [] (contentLines content))
      constructor
      · rw [List.length_map]
        omega
      · have once := (nodup_firstOccurrences [] (contentLines content)).1
        exact (once.sublist (List.take_sublist _ _)).map fun _ _ => String.ofList_injective

/-- A rule gives as many candidates as it is asked for, and all are different. -/
theorem values_eq_ok (run : values config files rule count = .ok candidates) :
    candidates.length = count ∧ candidates.Nodup := by
  unfold values at run
  split at run
  · exact integers_eq_ok run
  · exact lines_eq_ok run

end Candidate

end TopoPlan
