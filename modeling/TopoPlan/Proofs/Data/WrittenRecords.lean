import TopoPlan.Proofs.Outcomes
import TopoPlan.Proofs.Rule.Rows
import TopoPlan.Proofs.Text.Lines
import TopoPlan.Rule.Source

/-!
# Records read back

A field is written in double quotes, with the double quotes inside doubled, or as it is where
nothing in it means something else.  `Written` describes the texts that records can be written
as, and `readsBack_of_written` says that reading gives back what was written: one row for each
record, and a fault where a record does not fit the names in the first one.
-/

namespace TopoPlan

namespace Csv

/-- A text with each of its double quotes doubled. -/
def doubled (text : List Char) : List Char :=
  text.flatMap fun character => if character = '"' then ['"', '"'] else [character]

/-- How a field without line feeds may be written. -/
inductive WrittenField (field : String) : List Char → Prop where
  /-- In double quotes. -/
  | quoted (unbroken : '\n' ∉ field.toList) :
    WrittenField field ('"' :: (doubled field.toList ++ ['"']))
  /-- As it is, if there is something and none of it has a meaning in records. -/
  | bare (nonempty : field.toList ≠ [])
      (plain : ∀ special ∈ [',', '"', '\r', '\n'], special ∉ field.toList) :
    WrittenField field field.toList

/-- How a record of one field or more may be written: commas separate its fields. -/
inductive WrittenRecord : List String → List Char → Prop where
  | last {field : String} {text : List Char} (written : WrittenField field text) :
    WrittenRecord [field] text
  | next {field : String} {text : List Char} {fields : List String} {line : List Char}
      (written : WrittenField field text) (others : WrittenRecord fields line) :
    WrittenRecord (field :: fields) (text ++ ',' :: line)

/-- How records may be written: each on a line, with empty lines anywhere between them.  The
last line need not end. -/
inductive Written : List (List String) → List Char → Prop where
  | done : Written [] []
  | empty {lineEnd text : List Char} {records : List (List String)}
      (ending : lineEnd ∈ Text.lineEnds) (rest : Written records text) :
    Written records (lineEnd ++ text)
  | record {fields : List String} {line lineEnd text : List Char} {records : List (List String)}
      (written : WrittenRecord fields line) (ending : lineEnd ∈ Text.lineEnds)
      (rest : Written records text) :
    Written (fields :: records) (line ++ lineEnd ++ text)
  | last {fields : List String} {line : List Char} (written : WrittenRecord fields line) :
    Written [fields] line

variable {field : String} {fields : List String} {text line : List Char}
  {records : List (List String)}

/-! ## Fields of a line -/

/-- The inside of a quoted field is read up to its end. -/
theorem splitFrom_doubled (before text rest : List Char) :
    splitFrom true before (doubled text ++ rest) =
      splitFrom true (text.reverse ++ before) rest := by
  induction text generalizing before with
  | nil => rfl
  | cons character others inductionHypothesis =>
    rw [List.reverse_cons, List.append_assoc, List.singleton_append, ← inductionHypothesis]
    unfold doubled
    rw [List.flatMap_cons]
    split
    case isTrue quote =>
      subst quote
      exact splitFrom.eq_3 before _
    case isFalse other =>
      exact splitFrom.eq_7 true before character _ (fun _ _ quote => absurd quote other)
        (fun _ quote => absurd quote other) (fun unquoted => nomatch unquoted)
        fun unquoted => nomatch unquoted

/-- A bare field is read up to its end. -/
theorem splitFrom_bare (before : List Char) {text : List Char}
    (plain : ∀ special ∈ [',', '"'], special ∉ text) (rest : List Char) :
    splitFrom false before (text ++ rest) = splitFrom false (text.reverse ++ before) rest := by
  induction text generalizing before with
  | nil => rfl
  | cons character others inductionHypothesis =>
    have comma : character ≠ ',' := fun same =>
      plain ',' (by decide) (same ▸ List.mem_cons_self)
    have quote : character ≠ '"' := fun same =>
      plain '"' (by decide) (same ▸ List.mem_cons_self)
    have later : ∀ special ∈ [',', '"'], special ∉ others := fun special listed inside =>
      plain special listed (List.mem_cons_of_mem _ inside)
    rw [List.reverse_cons, List.append_assoc, List.singleton_append,
      ← inductionHypothesis (character :: before) later]
    exact splitFrom.eq_7 false before character _ (fun _ quoted => nomatch quoted)
      (fun quoted => nomatch quoted) (fun _ => comma) fun _ _ => quote

/-- A written field is read up to its end, unless a double quote follows. -/
theorem splitFrom_of_written (written : WrittenField field text) {rest : List Char}
    (ends : rest.head? ≠ some '"') :
    splitFrom false [] (text ++ rest) = splitFrom false field.toList.reverse rest := by
  cases written with
  | quoted =>
    have closing : splitFrom true field.toList.reverse ('"' :: rest) =
        splitFrom false field.toList.reverse rest :=
      splitFrom.eq_4 _ _ fun others same => ends (by rw [same, List.head?_cons])
    rw [List.cons_append, List.append_assoc, List.singleton_append]
    calc splitFrom false [] ('"' :: (doubled field.toList ++ '"' :: rest))
        = splitFrom true [] (doubled field.toList ++ '"' :: rest) := splitFrom.eq_5 _
      _ = splitFrom true field.toList.reverse ('"' :: rest) := by
          rw [splitFrom_doubled, List.append_nil]
      _ = splitFrom false field.toList.reverse rest := closing
  | bare _ plain =>
    have separators : ∀ special ∈ [',', '"'], special ∉ field.toList := fun special listed =>
      plain special (List.mem_append_left ['\r', '\n'] listed)
    rw [splitFrom_bare [] separators, List.append_nil]

/-- The fields of a record are read back. -/
theorem splitFrom_of_writtenRecord (written : WrittenRecord fields line) :
    splitFrom false [] line = some (fields.map String.toList) := by
  induction written with
  | @last field text written =>
    have read : splitFrom false [] (text ++ []) = _ := splitFrom_of_written written (by simp)
    rw [List.append_nil] at read
    rw [read, splitFrom, List.reverse_reverse]
    rfl
  | @next field text fields line written others inductionHypothesis =>
    rw [splitFrom_of_written written (by simp), splitFrom, inductionHypothesis,
      List.reverse_reverse]
    rfl

/-- A line gives back the record that it was written from. -/
theorem split_of_written (written : WrittenRecord fields line) : split line = .ok fields := by
  rw [split, splitFrom_of_writtenRecord written]
  dsimp only
  rw [List.map_map]
  simp only [Function.comp_def, String.ofList_toList, List.map_id']

/-! ## Lines of a text -/

/-- Doubling marks adds no other character. -/
theorem mem_of_mem_doubled {text : List Char} {character : Char}
    (inside : character ∈ doubled text) : character ∈ text := by
  obtain ⟨origin, listed, made⟩ := List.mem_flatMap.mp inside
  split at made
  case isTrue quote =>
    subst quote
    have same : character = '"' := by simpa using made
    exact same ▸ listed
  case isFalse => exact List.mem_singleton.mp made ▸ listed

/-- A written field stays on its line. -/
theorem WrittenField.unbroken (written : WrittenField field text) : '\n' ∉ text := by
  cases written with
  | quoted unbroken =>
    intro inside
    rcases List.mem_cons.mp inside with quote | inside
    · cases quote
    · rcases List.mem_append.mp inside with inside | quote
      · exact unbroken (mem_of_mem_doubled inside)
      · cases List.mem_singleton.mp quote
  | bare _ plain => exact plain '\n' (by decide)

/-- A written field has a last character, which is not a carriage return. -/
theorem WrittenField.exists_last (written : WrittenField field text) :
    ∃ before last, text = before ++ [last] ∧ last ≠ '\r' := by
  cases written with
  | quoted => exact ⟨'"' :: doubled field.toList, '"', rfl, by decide⟩
  | bare nonempty plain =>
    obtain ⟨before, last, same⟩ := (List.eq_nil_or_concat' _).resolve_left nonempty
    refine ⟨before, last, same, fun returned => plain '\r' (by decide) ?_⟩
    rw [same, returned]
    exact List.mem_append_right _ (List.mem_singleton_self _)

/-- A written record stays on its line. -/
theorem WrittenRecord.unbroken (written : WrittenRecord fields line) : '\n' ∉ line := by
  induction written with
  | last written => exact written.unbroken
  | next written _ inductionHypothesis =>
    intro inside
    rcases List.mem_append.mp inside with inside | inside
    · exact written.unbroken inside
    · rcases List.mem_cons.mp inside with comma | inside
      · cases comma
      · exact inductionHypothesis inside

/-- A written record has a last character, which is not a carriage return. -/
theorem WrittenRecord.exists_last (written : WrittenRecord fields line) :
    ∃ before last, line = before ++ [last] ∧ last ≠ '\r' := by
  induction written with
  | last written => exact written.exists_last
  | @next field text fields line written _ inductionHypothesis =>
    obtain ⟨before, last, rfl, other⟩ := inductionHypothesis
    exact ⟨text ++ ',' :: before, last, by simp, other⟩

/-- A written record is a line with content. -/
theorem contentLines_of_writtenRecord (written : WrittenRecord fields line) :
    contentLines (String.ofList line) = [line] := by
  obtain ⟨before, last, same, other⟩ := written.exists_last
  have kept : line.rdropWhile (· == '\r') = line := by
    rw [same, List.rdropWhile_concat_neg _ _ _ (by simpa using other)]
  rw [contentLines_single written.unbroken, kept]
  exact List.filter_eq_self.mpr fun other listed => by
    rw [List.mem_singleton.mp listed, same]
    simp

/-- The lines with content are those of the records. -/
theorem contentLines_of_written (written : Written records text) :
    List.Forall₂ WrittenRecord records (contentLines (String.ofList text)) := by
  induction written with
  | done => exact .nil
  | @empty lineEnd text records ending rest inductionHypothesis =>
    have split : contentLines (String.ofList ([] ++ lineEnd ++ text)) = _ :=
      contentLines_append List.not_mem_nil ending text
    rw [List.nil_append] at split
    rw [split]
    exact inductionHypothesis
  | @record fields line lineEnd text records written ending rest inductionHypothesis =>
    rw [contentLines_append written.unbroken ending, contentLines_of_writtenRecord written]
    exact .cons written inductionHypothesis
  | last written =>
    rw [contentLines_of_writtenRecord written]
    exact .cons written .nil

/-! ## Records of lines -/

/-- A record with its position, if it has as many fields as there are names. -/
def checkRecord (expected : Nat) (entry : List String × Nat) : Except Fault (List String) :=
  if entry.1.length = expected then .ok entry.1
  else .error (.fieldCount (entry.2 + 1) entry.1.length expected)

/-- Only the number of fields of a written record is checked. -/
theorem records_of_written {lines : List (List Char)}
    (written : List.Forall₂ WrittenRecord records lines) (expected : Nat) :
    Csv.records expected lines = records.zipIdx.mapM (checkRecord expected) := by
  unfold Csv.records
  generalize 0 = start
  induction written generalizing start with
  | nil => rfl
  | cons first others inductionHypothesis =>
    rw [List.zipIdx_cons, List.zipIdx_cons, List.mapM_cons, List.mapM_cons,
      inductionHypothesis (start + 1), split_of_written first]
    rfl

/-- Written records of the expected length are read back. -/
theorem records_eq_ok {lines : List (List Char)} {expected : Nat}
    (written : List.Forall₂ WrittenRecord records lines)
    (fits : ∀ record ∈ records, record.length = expected) :
    Csv.records expected lines = .ok records := by
  have checked : ∀ entry ∈ records.zipIdx, checkRecord expected entry = .ok entry.1 :=
    fun entry listed => if_pos (fits entry.1 (List.fst_mem_of_mem_zipIdx listed))
  rw [records_of_written written, Outcome.mapM_of_forall checked, List.zipIdx_map_fst]

/-- The first record with another number of fields is reported. -/
theorem records_eq_error {lines : List (List Char)} {expected : Nat}
    {before after : List (List String)} {record : List String}
    (written : List.Forall₂ WrittenRecord (before ++ record :: after) lines)
    (fits : ∀ earlier ∈ before, earlier.length = expected) (other : record.length ≠ expected) :
    Csv.records expected lines =
      .error (.fieldCount (before.length + 1) record.length expected) := by
  have checked : ∀ entry ∈ before.zipIdx, ∃ value, checkRecord expected entry = .ok value :=
    fun entry listed => ⟨entry.1, if_pos (fits entry.1 (List.fst_mem_of_mem_zipIdx listed))⟩
  rw [records_of_written written, List.zipIdx_append, List.zipIdx_cons]
  refine Outcome.mapM_eq_error checked ?_
  rw [checkRecord, if_neg other, Nat.zero_add]

end Csv

namespace Source

open Csv

/-- Rows that hold the records below a record of names. -/
structure ReadsBack (names : List String) (records : List (List String)) (rows : List Row) :
    Prop where
  count : rows.length = records.length
  /-- A row has the fields of its record under the names at their places. -/
  fields : ∀ (position : Nat) record row, records[position]? = some record →
    rows[position]? = some row → ∀ (column : Nat) name field, names[column]? = some name →
      record[column]? = some field → row[name]? = some field
  /-- A row has its position. -/
  index : ∀ (position : Nat) row, rows[position]? = some row →
    row[Row.indexField]? = some (Numeral.text position)
  /-- A row has nothing else. -/
  others : ∀ row ∈ rows, ∀ name, name ∉ names → name ≠ Row.indexField → row[name]? = none

variable {names : List String} {records : List (List String)} {content : String}

/-- The row of a record, without its position. -/
def rowOfRecord (names record : List String) : Row := Table.setAll {} (names.zip record)

/-- Rows of records that have a field for each name. -/
theorem readsBack_number (once : names.Nodup) (unnumbered : Row.indexField ∉ names)
    (fits : ∀ record ∈ records, record.length = names.length) :
    ReadsBack names records (Row.number (records.map (rowOfRecord names))) where
  count := by rw [Row.length_number, List.length_map]
  fields := by
    intro position record row listed found column name field named given
    rw [Row.getElem?_number, List.getElem?_map, listed] at found
    cases found
    have different : Row.indexField ≠ name := fun same =>
      unnumbered (same ▸ List.mem_of_getElem? named)
    have keys : (names.zip record).map Prod.fst = names :=
      List.map_fst_zip (Nat.le_of_eq (fits record (List.mem_of_getElem? listed)).symm)
    rw [Row.getElem?_indexed, if_neg different]
    exact Table.getElem?_setAll_of_mem (keys.symm ▸ once)
      (List.mem_of_getElem? (List.getElem?_zip_eq_some.mpr ⟨named, given⟩))
  index := Row.numbered_number _
  others := by
    intro row listed name absent different
    obtain ⟨position, found⟩ := List.mem_iff_getElem?.mp listed
    rw [Row.getElem?_number, List.getElem?_map] at found
    obtain ⟨_, made, rfl⟩ := Option.map_eq_some_iff.mp found
    obtain ⟨record, _, rfl⟩ := Option.map_eq_some_iff.mp made
    have outside : name ∉ (names.zip record).map Prod.fst := fun inside => by
      obtain ⟨⟨_, field⟩, pair, rfl⟩ := List.mem_map.mp inside
      exact absent (List.of_mem_zip pair).1
    rw [Row.getElem?_indexed, if_neg (Ne.symm different)]
    exact (Table.getElem?_setAll_of_not_mem outside).trans Std.ExtTreeMap.getElem?_empty

/-- The rows of written records are made from the records below the first one. -/
theorem csvRows_eq (written : Written (names :: records) content.toList) :
    ∃ lines, List.Forall₂ WrittenRecord records lines ∧
      csvRows content = (Csv.records names.length lines).map fun records =>
        Row.number (records.map (rowOfRecord names)) := by
  have all := contentLines_of_written written
  rw [String.ofList_toList] at all
  obtain ⟨header, lines, first, others, same⟩ := List.forall₂_cons_left_iff.mp all
  refine ⟨lines, others, ?_⟩
  rw [csvRows, same]
  dsimp only
  rw [split_of_written first]
  change (Csv.records names.length lines >>= fun found =>
    pure (Row.number (found.map (rowOfRecord names)))) = _
  cases Csv.records names.length lines <;> rfl

/-- Records of different names are read back as they were written, whichever way they were; the
first one whose number of fields is another one is reported. -/
theorem readsBack_of_written (once : names.Nodup) (unnumbered : Row.indexField ∉ names)
    (written : Written (names :: records) content.toList) :
    ((∀ record ∈ records, record.length = names.length) →
      ∃ rows, csvRows content = .ok rows ∧ ReadsBack names records rows) ∧
    ((∃ record ∈ records, record.length ≠ names.length) →
      ∃ before record after, records = before ++ record :: after ∧
        (∀ earlier ∈ before, earlier.length = names.length) ∧ record.length ≠ names.length ∧
        csvRows content =
          .error (.fieldCount (before.length + 1) record.length names.length)) := by
  obtain ⟨lines, each, made⟩ := csvRows_eq written
  constructor
  · intro fits
    refine ⟨_, ?_, readsBack_number once unnumbered fits⟩
    rw [made, records_eq_ok each fits]
    rfl
  · rintro ⟨wrong, listed, other⟩
    have some : (records.find? fun record => record.length ≠ names.length).isSome :=
      List.find?_isSome.mpr ⟨wrong, listed, decide_eq_true other⟩
    obtain ⟨record, found⟩ := Option.isSome_iff_exists.mp some
    obtain ⟨differs, before, after, rfl, earlier⟩ := List.find?_eq_some_iff_append.mp found
    have fits : ∀ record ∈ before, record.length = names.length := fun record listed => by
      simpa using earlier record listed
    have differs := of_decide_eq_true differs
    refine ⟨before, record, after, rfl, fits, differs, ?_⟩
    rw [made, records_eq_error each fits differs]
    rfl

end Source

namespace Roster

open Csv Source

/-- The names of two fields. -/
def names : List String := ["name", "no\"te"]

/-- Fields with separators, quotes and carriage returns in them, and a field without anything. -/
def records : List (List String) := [["r1", "core, \"main\""], ["", "a\r"]]

/-- The records on lines that end in different ways, with empty ones before and between them. -/
def content : String :=
  "\nname,\"no\"\"te\"\r\n\"r1\",\"core, \"\"main\"\"\"\n\r\n\n\"\",\"a\r\"\r\n"

/-- A text whose second record below the names has one field only. -/
def short : String := "name,\"no\"\"te\"\nr1,1\n\"r2,2\""

/-- The first text gives back both records, and the second one is refused. -/
theorem readsBack_of_roster :
    names.Nodup ∧ Row.indexField ∉ names ∧
      (Written (names :: records) content.toList ∧
        ∃ rows, csvRows content = .ok rows ∧ ReadsBack names records rows) ∧
      (Written [names, ["r1", "1"], ["r2,2"]] short.toList ∧
        csvRows short = .error (.fieldCount 2 1 2)) := by
  have once : names.Nodup := by decide
  have unnumbered : Row.indexField ∉ names := by decide
  have header : WrittenRecord names _ :=
    .next (.bare (by decide +kernel) (by simp)) (.last (.quoted (by decide +kernel)))
  have first : WrittenRecord ["r1", "core, \"main\""] _ :=
    .next (.quoted (by decide +kernel)) (.last (.quoted (by decide +kernel)))
  have second : WrittenRecord ["", "a\r"] _ :=
    .next (.quoted (by decide +kernel)) (.last (.quoted (by decide +kernel)))
  have lineFeed : ['\n'] ∈ Text.lineEnds := by decide
  have both : ['\r', '\n'] ∈ Text.lineEnds := by decide
  have full : Written (names :: records) content.toList :=
    (congrArg (Written (names :: records)) (by decide +kernel)).mp
      (Written.empty lineFeed (.record header both (.record first lineFeed
        (.empty both (.empty lineFeed (.record second both .done))))))
  have pair : WrittenRecord ["r1", "1"] _ :=
    .next (.bare (by decide +kernel) (by simp))
      (.last (.bare (by decide +kernel) (by simp)))
  have less : Written [names, ["r1", "1"], ["r2,2"]] short.toList :=
    (congrArg (Written [names, ["r1", "1"], ["r2,2"]]) (by decide +kernel)).mp
      (Written.record header lineFeed (.record pair lineFeed
        (.last (.last (.quoted (by decide +kernel))))))
  exact ⟨once, unnumbered,
    ⟨full, (readsBack_of_written once unnumbered full).1 (by decide)⟩, less, rfl⟩

end Roster

end TopoPlan
