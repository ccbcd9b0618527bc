import Mathlib.Data.List.Forall2
import Mathlib.Data.List.TakeWhile
import TopoPlan.Proofs.Rule.Rows

/-!
# Derived fields

A template is expanded from left to right: where a reference begins, the value of its field is
put in its place, and any other character stays.  `Expands` says this without a way to compute
it, `expands_iff` that there is always one expansion, which is the one that is computed, and
`derived_of_formats` that all fields of formats are expanded from the row as it was.
-/

namespace TopoPlan.Row

/-- How a reference to a field is written: between double braces, with blanks around the name
and a point right before it where somebody wants them. -/
inductive WrittenReference (key : String) : List Char → Prop where
  | braces {before point after : List Char}
      (blankBefore : ∀ character ∈ before, Text.isBlank character = true)
      (pointed : point = [] ∨ point = ['.'])
      (nonempty : key.toList ≠ [])
      (named : ∀ character ∈ key.toList, isKeyCharacter character = true)
      (blankAfter : ∀ character ∈ after, Text.isBlank character = true) :
    WrittenReference key
      ('\x7b' :: '\x7b' :: (before ++ (point ++ (key.toList ++ (after ++ ['\x7d', '\x7d'])))))

/-- A text and what becomes of it when the references in it, found from left to right, are
replaced by fields of a row. -/
inductive Expands (row : Row) : List Char → List Char → Prop where
  | done : Expands row [] []
  | replace {key : String} {written rest result : List Char}
      (reference : WrittenReference key written) (others : Expands row rest result) :
    Expands row (written ++ rest) ((row.getD key "").toList ++ result)
  | keep {character : Char} {rest result : List Char}
      (none : ∀ key written after, WrittenReference key written →
        character :: rest ≠ written ++ after)
      (others : Expands row rest result) :
    Expands row (character :: rest) (character :: result)

/-! ## References -/

/-- No character of a name is a blank. -/
theorem isBlank_of_isKeyCharacter {character : Char} (named : isKeyCharacter character = true) :
    Text.isBlank character = false := by
  -- Letters, digits and the underscore are between two codes.
  have between (low high : Char) (least : character.val ≥ low.val) (most : character.val ≤ high.val)
      (above : 48 ≤ low.toNat) (below : high.toNat ≤ 122) :
      48 ≤ character.toNat ∧ character.toNat ≤ 122 :=
    ⟨Nat.le_trans above (UInt32.le_iff_toNat_le.mp least),
      Nat.le_trans (UInt32.le_iff_toNat_le.mp most) below⟩
  have bounds : 48 ≤ character.toNat ∧ character.toNat ≤ 122 := by
    rcases (Bool.or_eq_true _ _).mp named with alphanumeric | underscore
    · rcases (Bool.or_eq_true _ _).mp alphanumeric with letter | digit
      · rcases (Bool.or_eq_true _ _).mp letter with upper | lower
        · obtain ⟨least, most⟩ := of_decide_eq_true upper
          exact between 'A' 'Z' least most (by decide) (by decide)
        · obtain ⟨least, most⟩ := (Bool.and_eq_true _ _).mp lower
          exact between 'a' 'z' (of_decide_eq_true least) (of_decide_eq_true most) (by decide)
            (by decide)
      · obtain ⟨least, most⟩ := (Bool.and_eq_true _ _).mp digit
        exact between '0' '9' (of_decide_eq_true least) (of_decide_eq_true most) (by decide)
          (by decide)
    · rw [beq_iff_eq.mp underscore]
      decide
  obtain ⟨above, below⟩ := bounds
  simp [Text.isBlank]
  omega

/-- Characters of one kind end where another kind begins. -/
theorem takeWhile_exact {test : Char → Bool} {front rest : List Char}
    (inside : ∀ character ∈ front, test character = true)
    (ends : ∀ character, rest.head? = some character → test character = false) :
    (front ++ rest).takeWhile test = front := by
  rw [List.takeWhile_append_of_pos inside]
  cases rest with
  | nil => rw [List.takeWhile_nil, List.append_nil]
  | cons first others =>
    rw [List.takeWhile_cons_of_neg (by simp [ends first rfl]), List.append_nil]

/-- Dropping stops at the first character that does not pass. -/
theorem dropWhile_exact {test : Char → Bool} {front rest : List Char}
    (inside : ∀ character ∈ front, test character = true)
    (ends : ∀ character, rest.head? = some character → test character = false) :
    (front ++ rest).dropWhile test = rest := by
  rw [List.dropWhile_append_of_pos inside]
  cases rest with
  | nil => rfl
  | cons first others => exact List.dropWhile_cons_of_neg (by simp [ends first rfl])

/-- A point before a name is dropped. -/
theorem drop_point {point body : List Char} (pointed : point = [] ∨ point = ['.'])
    (other : body.head? ≠ some '.') :
    (if (point ++ body).head? == some '.' then (point ++ body).drop 1 else point ++ body) =
      body := by
  rcases pointed with rfl | rfl
  · exact if_neg fun point => other (beq_iff_eq.mp point)
  · rfl

/-- A point before a name may be left out. -/
theorem exists_point (text : List Char) :
    ∃ point, (point = [] ∨ point = ['.']) ∧
      text = point ++ if text.head? == some '.' then text.drop 1 else text := by
  split
  case isTrue pointed =>
    obtain ⟨rest, rfl⟩ := List.head?_eq_some_iff.mp (beq_iff_eq.mp pointed)
    exact ⟨['.'], .inr rfl, rfl⟩
  case isFalse => exact ⟨[], .inl rfl, rfl⟩

/-- A written reference is recognized. -/
theorem reference?_append {key : String} {written : List Char}
    (reference : WrittenReference key written) (rest : List Char) :
    reference? (written ++ rest) = some (key, rest) := by
  cases reference with
  | @braces before point after blankBefore pointed nonempty named blankAfter =>
    let closing := '\x7d' :: '\x7d' :: rest
    let body := key.toList ++ (after ++ closing)
    obtain ⟨first, more, characters⟩ := List.exists_cons_of_ne_nil nonempty
    have firstNamed : isKeyCharacter first = true :=
      named first (characters ▸ List.mem_cons_self)
    have bodyHead : body.head? = some first := by simp [body, characters]
    have start : (before ++ (point ++ body)).dropWhile Text.isBlank = point ++ body := by
      refine dropWhile_exact blankBefore fun character head => ?_
      rcases pointed with rfl | rfl
      · rw [List.nil_append, bodyHead] at head
        exact Option.some.inj head ▸ isBlank_of_isKeyCharacter firstNamed
      · cases head
        rfl
    have other : body.head? ≠ some '.' := fun pointed => by
      rw [bodyHead] at pointed
      rw [Option.some.inj pointed] at firstNamed
      cases firstNamed
    have ends : ∀ character, (after ++ closing).head? = some character →
        isKeyCharacter character = false := by
      intro character head
      cases after with
      | nil =>
        cases head
        rfl
      | cons blank others =>
        cases head
        refine Bool.eq_false_iff.mpr fun isKey => ?_
        cases (blankAfter _ List.mem_cons_self).symm.trans (isBlank_of_isKeyCharacter isKey)
    have name : body.takeWhile isKeyCharacter = key.toList := takeWhile_exact named ends
    have afterName : body.dropWhile isKeyCharacter = after ++ closing := dropWhile_exact named ends
    have stop : (after ++ closing).dropWhile Text.isBlank = closing :=
      dropWhile_exact blankAfter fun character head => by
        cases head
        rfl
    have whole : '\x7b' :: '\x7b' ::
        (before ++ (point ++ (key.toList ++ (after ++ ['\x7d', '\x7d'])))) ++ rest =
          '\x7b' :: '\x7b' :: (before ++ (point ++ body)) := by
      simp [body, closing]
    rw [whole, reference?]
    simp only [start, drop_point pointed other, name, afterName, stop, closing]
    rw [if_neg (by simpa using nonempty), String.ofList_toList]

/-- What is recognized is a written reference. -/
theorem exists_of_reference? {key : String} {text rest : List Char}
    (found : reference? text = some (key, rest)) :
    ∃ written, WrittenReference key written ∧ text = written ++ rest := by
  unfold reference? at found
  split at found
  case h_2 => cases found
  case h_1 inside =>
    obtain ⟨point, pointed, start⟩ := exists_point (inside.dropWhile Text.isBlank)
    dsimp only at found
    generalize (if (inside.dropWhile Text.isBlank).head? == some '.' then
        (inside.dropWhile Text.isBlank).drop 1
      else inside.dropWhile Text.isBlank) = body at found start
    split at found
    case h_2 => cases found
    case h_1 closed =>
      split at found
      case isTrue => cases found
      case isFalse nonempty =>
        cases found
        have shape : inside = inside.takeWhile Text.isBlank ++ (point ++
            (body.takeWhile isKeyCharacter ++
              ((body.dropWhile isKeyCharacter).takeWhile Text.isBlank ++
                '\x7d' :: '\x7d' :: rest))) := by
          rw [← closed, List.takeWhile_append_dropWhile, List.takeWhile_append_dropWhile, ← start,
            List.takeWhile_append_dropWhile]
        have blankBefore : ∀ character ∈ inside.takeWhile Text.isBlank,
            Text.isBlank character = true := fun _ => List.mem_takeWhile_imp
        have blankAfter : ∀ character ∈ (body.dropWhile isKeyCharacter).takeWhile Text.isBlank,
            Text.isBlank character = true := fun _ => List.mem_takeWhile_imp
        refine ⟨_, .braces blankBefore pointed ?_ ?_ blankAfter, ?_⟩
        · rw [String.toList_ofList]
          simpa using nonempty
        · rw [String.toList_ofList]
          exact fun _ => List.mem_takeWhile_imp
        · rw [String.toList_ofList]
          exact (congrArg (fun tail => '\x7b' :: '\x7b' :: tail) shape).trans (by simp)

/-! ## Expansions -/

variable {row : Row} {source result : List Char}

/-- A written reference begins with a brace. -/
theorem exists_cons_of_written {key : String} {written : List Char}
    (reference : WrittenReference key written) : ∃ rest, written = '\x7b' :: rest := by
  cases reference
  exact ⟨_, rfl⟩

/-- What is computed within enough steps is an expansion. -/
theorem expands_expandWithin (row : Row) {steps : Nat} {text : List Char}
    (enough : text.length ≤ steps) : Expands row text (expandWithin row steps text) := by
  induction steps generalizing text with
  | zero =>
    rw [List.eq_nil_of_length_eq_zero (Nat.le_zero.mp enough)]
    exact .done
  | succ steps inductionHypothesis =>
    cases text with
    | nil => exact .done
    | cons character rest =>
      rw [expandWithin]
      split
      case h_1 key after found =>
        obtain ⟨written, reference, whole⟩ := exists_of_reference? found
        obtain ⟨more, rfl⟩ := exists_cons_of_written reference
        have fewer : after.length ≤ steps := by
          have lengths := congrArg List.length whole
          simp only [List.length_cons, List.length_append] at lengths enough
          omega
        rw [whole]
        exact .replace reference (inductionHypothesis fewer)
      case h_2 absent =>
        refine .keep (fun key written after reference whole => ?_)
          (inductionHypothesis (Nat.le_of_succ_le_succ enough))
        rw [whole, reference?_append reference] at absent
        cases absent

/-- There is no other expansion. -/
theorem expandWithin_of_expands (expands : Expands row source result) {steps : Nat}
    (enough : source.length ≤ steps) : expandWithin row steps source = result := by
  induction expands generalizing steps with
  | done => cases steps <;> rfl
  | @replace key written rest result reference _ inductionHypothesis =>
    have found := reference?_append reference rest
    obtain ⟨more, rfl⟩ := exists_cons_of_written reference
    rw [List.cons_append] at found enough ⊢
    cases steps with
    | zero => cases enough
    | succ steps =>
      have fewer : rest.length ≤ steps := by
        simp only [List.length_cons, List.length_append] at enough
        omega
      rw [expandWithin, found]
      dsimp only
      rw [inductionHypothesis fewer]
  | @keep character rest result none _ inductionHypothesis =>
    have absent : reference? (character :: rest) = Option.none := by
      refine Option.eq_none_iff_forall_not_mem.mpr fun ⟨key, after⟩ found => ?_
      obtain ⟨written, reference, whole⟩ := exists_of_reference? found
      exact none key written after reference whole
    cases steps with
    | zero => cases enough
    | succ steps =>
      rw [expandWithin, absent]
      dsimp only
      rw [inductionHypothesis (Nat.le_of_succ_le_succ enough)]

/-- The expansion of a template is the only one. -/
theorem expands_iff {template : String} :
    Expands row template.toList result ↔ result = (row.expand template).toList := by
  have enough : template.toList.length ≤ template.length := Nat.le_of_eq String.length_toList
  rw [expand, String.toList_ofList]
  constructor
  · exact fun expands => (expandWithin_of_expands expands enough).symm
  · rintro rfl
    exact expands_expandWithin row enough

/-! ## Templates of pieces -/

/-- A piece of a template: a text without opening braces, or a reference. -/
inductive Piece where
  | literal (text : String) (plain : '\x7b' ∉ text.toList)
  | reference (key : String) (written : List Char) (reference : WrittenReference key written)

namespace Piece

/-- What stands in the template. -/
def written : Piece → List Char
  | literal text _ => text.toList
  | reference _ written _ => written

/-- What stands in the field that is made from the template. -/
def value (row : Row) : Piece → List Char
  | literal text _ => text.toList
  | reference key _ _ => (row.getD key "").toList

/-- The template of pieces. -/
def template (pieces : List Piece) : String := String.ofList (pieces.flatMap written)

/-- The values of pieces. -/
def values (row : Row) (pieces : List Piece) : String := String.ofList (pieces.flatMap (value row))

end Piece

/-- A text without opening braces stays in front of an expansion. -/
theorem Expands.append (expands : Expands row source result) {front : List Char}
    (plain : '\x7b' ∉ front) : Expands row (front ++ source) (front ++ result) := by
  induction front with
  | nil => exact expands
  | cons character others inductionHypothesis =>
    rw [List.mem_cons, not_or] at plain
    refine .keep (fun key written after reference whole => ?_) (inductionHypothesis plain.2)
    obtain ⟨more, rfl⟩ := exists_cons_of_written reference
    exact plain.1 (List.cons.inj whole).1.symm

/-- Pieces are expanded one by one. -/
theorem expands_pieces (row : Row) (pieces : List Piece) :
    Expands row (pieces.flatMap Piece.written) (pieces.flatMap (Piece.value row)) := by
  induction pieces with
  | nil => exact .done
  | cons piece others inductionHypothesis =>
    rw [List.flatMap_cons, List.flatMap_cons]
    cases piece with
    | literal text plain => exact inductionHypothesis.append plain
    | reference key written reference => exact .replace reference inductionHypothesis

/-! ## Derived fields -/

/-- A row with the fields that formats derive from another one. -/
structure Derived (formats : Table String) (row derived : Row) : Prop where
  /-- Other fields stay as they are. -/
  kept : ∀ field : String, field ∉ formats → derived[field]? = row[field]?
  /-- A derived field is the expansion of its template over the row, and over nothing else. -/
  made : ∀ field template : String, formats[field]? = some template →
    ∃ text : String, derived[field]? = some text ∧
      ∀ result, Expands row template.toList result ↔ result = text.toList
  /-- The field of a template of pieces has their values one after the other. -/
  pieces : ∀ (field : String) (pieces : List Piece),
    formats[field]? = some (Piece.template pieces) →
      derived[field]? = some (Piece.values row pieces)

/-- All derived fields of a row are made from the row as it was. -/
theorem derived_of_formats (formats : Table String) (rows : List Row) :
    List.Forall₂ (Derived formats) rows (rows.map (derive formats)) := by
  refine List.forall₂_map_right_iff.mpr (List.forall₂_same.mpr fun row _ => ?_)
  have made {field template : String} (found : formats[field]? = some template) :
      (derive formats row)[field]? = some (row.expand template) := by
    rw [getElem?_derive, found]
    rfl
  refine ⟨fun field absent => ?kept, fun field template found => ?made,
    fun field pieces found => ?pieces⟩
  case kept =>
    rw [getElem?_derive, Std.ExtTreeMap.getElem?_eq_none absent]
    rfl
  case made => exact ⟨row.expand template, made found, fun result => expands_iff⟩
  case pieces =>
    have expands := expands_pieces row pieces
    rw [← String.toList_ofList (l := pieces.flatMap Piece.written)] at expands
    rw [made found, Piece.values, expands_iff.mp expands, String.ofList_toList]
    rfl

/-- A field that another template refers to, and values with references in them. -/
example : (derive (Table.setAll {} [("value", "<\x7b\x7bindex\x7d\x7d>"),
      ("label", "\x7b\x7b value \x7d\x7d-\x7b\x7b.index\x7d\x7d\x7d\x7b\x7bnone\x7d\x7d")])
    (single "\x7b\x7bindex\x7d\x7d" 7)).toList =
      [("index", "7"), ("label", "\x7b\x7bindex\x7d\x7d-7\x7d"), ("value", "<7>")] := by
  decide +kernel

end TopoPlan.Row
