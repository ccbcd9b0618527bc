import TopoPlan.Proofs.Rule.AttachedRecords
import TopoPlan.Proofs.Rule.Rows

/-!
# Positions of rows

Rows are numbered where they are made, and records again where they are attached.  Both numbers
are the same: each kind of source gives a row its position whatever else it holds, and derived
fields leave it alone unless one of them takes its name.
-/

namespace TopoPlan

namespace Source

open Row

variable {config : Config} {files : TextFiles} {content path : String} {rows : List Row}

/-! ## Sources -/

/-- Lines are numbered when the empty ones are gone. -/
theorem numbered_textRows (content : String) : Numbered (textRows content) := by
  intro index row found
  rw [textRows, List.getElem?_map] at found
  obtain ⟨⟨line, position⟩, listed, rfl⟩ := Option.map_eq_some_iff.mp found
  rw [List.getElem?_zipIdx, Nat.zero_add] at listed
  obtain ⟨_, _, same⟩ := Option.map_eq_some_iff.mp listed
  cases same
  exact getElem?_indexField

/-- Records are numbered without the line of names. -/
theorem numbered_csvRows (read : csvRows content = .ok rows) : Numbered rows := by
  unfold csvRows at read
  split at read
  case h_1 =>
    cases read
    exact numbered_nil
  case h_2 =>
    obtain ⟨names, _, read⟩ := Outcome.bind_eq_ok.mp read
    obtain ⟨records, _, read⟩ := Outcome.bind_eq_ok.mp read
    cases read
    exact numbered_number _

/-- Mappings of a YAML list are numbered, whatever the reader of the text accepts. -/
theorem numbered_yamlRows (read : yamlRows? files content = some rows) : Numbered rows := by
  obtain ⟨doc, _, read⟩ := Option.bind_eq_some_iff.mp read
  obtain ⟨items, _, read⟩ := Option.bind_eq_some_iff.mp read
  cases read
  exact numbered_number _

/-- Objects of a JSON list are numbered, whatever the reader of the text accepts. -/
theorem numbered_jsonRows (read : jsonRows? files content = some rows) : Numbered rows := by
  obtain ⟨value, _, read⟩ := Option.bind_eq_some_iff.mp read
  split at read
  case h_1 =>
    obtain ⟨found, _, read⟩ := Option.bind_eq_some_iff.mp read
    cases read
    exact numbered_number _
  case h_2 => cases read

/-- The rows of a file are numbered in every format. -/
theorem numbered_contentRows {format : FileFormat}
    (read : contentRows files format path content = .ok rows) : Numbered rows := by
  cases format with
  | text =>
    cases read
    exact numbered_textRows content
  | csv =>
    rw [contentRows] at read
    split at read
    case h_1 found =>
      cases read
      exact numbered_csvRows found
    case h_2 => cases read
  | yaml =>
    rw [contentRows] at read
    split at read
    case h_1 found =>
      cases read
      exact numbered_yamlRows found
    case h_2 => cases read
  | json =>
    rw [contentRows] at read
    split at read
    case h_1 found =>
      cases read
      exact numbered_jsonRows found
    case h_2 => cases read

/-- The rows of every kind of source are numbered. -/
theorem numbered_rows {source : ValueSource} (read : Source.rows config files source = .ok rows) :
    Numbered rows := by
  unfold Source.rows at read
  split at read
  case h_1 =>
    cases read
    exact numbered_range _ _
  case h_2 =>
    cases read
    exact numbered_range _ _
  case h_3 =>
    cases read
    exact numbered_number _
  case h_4 =>
    obtain ⟨content, _, read⟩ := Outcome.bind_eq_ok.mp read
    exact numbered_contentRows read

/-! ## Rules -/

/-- What is in the table of all rows comes from a rule with a source. -/
theorem exists_of_allRows {found : Table (List Row)} (run : allRows config files = .ok found)
    {name : String} (look : found[name]? = some rows) :
    ∃ rule ∈ config.rules, rule.name = name ∧
      ∃ source, rule.source = some source ∧ ruleRows config files rule source = .ok rows := by
  let motive (done : List ParameterRule) (current : Table (List Row)) : Prop :=
    ∀ name rows, current[name]? = some rows → ∃ rule ∈ done, rule.name = name ∧
      ∃ source, rule.source = some source ∧ ruleRows config files rule source = .ok rows
  refine Outcome.foldlM_induction (motive := motive) run
    (fun name rows look => nomatch Std.ExtTreeMap.getElem?_empty.symm.trans look) ?_ name rows look
  intro done last current next _ holds step name rows look
  have earlier (known : current[name]? = some rows) : ∃ rule ∈ done ++ [last], rule.name = name ∧
      ∃ source, rule.source = some source ∧ ruleRows config files rule source = .ok rows := by
    obtain ⟨rule, listed, made⟩ := holds name rows known
    exact ⟨rule, List.mem_append_left _ listed, made⟩
  split at step
  case h_1 =>
    cases step
    exact earlier look
  case h_2 source own =>
    obtain ⟨given, made, step⟩ := Outcome.bind_eq_ok.mp step
    cases step
    rw [Table.getElem?_insert] at look
    split at look
    case isTrue same =>
      cases look
      exact ⟨last, List.mem_append_right _ (List.mem_singleton_self _), same, source, own, made⟩
    case isFalse => exact earlier look

end Source

namespace Config

/-- All attach rules of a name take their rows from sources, and none derives a position. -/
def KeepsPositions (config : Config) (name : String) : Prop :=
  ∀ rule ∈ config.rules, rule.name = name → rule.attaches = true →
    rule.generatorName? = none ∧ Row.indexField ∉ rule.formats

/-- A valid rule with a source has no generator, and shares its name with no other. -/
theorem keepsPositions_of_validate {config : Config} (valid : config.validate = .ok ())
    {rule : ParameterRule} (listed : rule ∈ config.rules) (sourced : rule.source.isSome = true)
    (other : Row.indexField ∉ rule.formats) : config.KeepsPositions rule.name := by
  intro same known name _
  obtain rfl := List.inj_on_of_nodup_map (ruleNames_nodup valid) known listed name
  obtain ⟨_, _, rest⟩ := Outcome.bind_eq_ok.mp (checkRule_of_validate valid listed)
  obtain ⟨_, single, _⟩ := Outcome.bind_eq_ok.mp rest
  have ungenerated := refuseIf_eq_ok single
  rw [sourced, Bool.true_and, Option.isSome_eq_false_iff, Option.isNone_iff_eq_none] at ungenerated
  refine ⟨?_, other⟩
  rw [ParameterRule.generatorName?, ungenerated]
  rfl

end Config

namespace Attaching

open Network Stage

variable {config : Config} {files : TextFiles} {generators : Generators}
  {sourceRows : Table (List Row)} {network after : Network} {rules : List ParameterRule}

/-- A record has the position and the fields of a row. -/
theorem getElem?_of_mem_records {name : String} {owner : Scope} {rows : List Row}
    {record : Attachment} (listed : record ∈ records name owner rows) :
    rows[record.index]? = some record.parameters.own := by
  obtain ⟨entry, member, rfl⟩ := List.mem_map.mp listed
  exact List.mem_zipIdx_iff_getElem?.mp member

/-- Records come from the rows that some rule made. -/
theorem exists_rowsFor_of_attachRules
    (run : (rules.forM (attachRule config generators sourceRows)).outcome network =
      (.ok (), after)) :
    ∃ additions, after.attachments.toList = network.attachments.toList ++ additions ∧
      ∀ record ∈ additions, ∃ rule ∈ rules, rule.name = record.rule ∧ ∃ seen owner rows,
        rowsFor config generators sourceRows seen rule owner = .ok rows ∧
          rows[record.index]? = some record.parameters.own := by
  induction rules generalizing network with
  | nil =>
    cases run
    exact ⟨[], (List.append_nil _).symm, List.forall_mem_nil _⟩
  | cons rule rest inductionHypothesis =>
    obtain ⟨middle, turn, run⟩ := outcome_forM_cons_eq_ok.mp run
    obtain ⟨entries, _, each, rfl⟩ := attachRule_eq_ok turn
    obtain ⟨more, stored, made⟩ := inductionHypothesis run
    refine ⟨given rule.name entries ++ more, ?_, fun record listed => ?_⟩
    · rw [stored, attachments_foldl_addAttachment, List.append_assoc]
    · rcases List.mem_append.mp listed with here | later
      · obtain ⟨entry, member, own⟩ := List.mem_flatMap.mp here
        exact ⟨rule, List.mem_cons_self, (of_mem_records own).1.symm, network, entry.1, entry.2,
          each entry member, getElem?_of_mem_records own⟩
      · obtain ⟨other, known, rows⟩ := made record later
        exact ⟨other, List.mem_cons_of_mem _ known, rows⟩

/-- A record whose own field tells its position. -/
def Positioned (record : Attachment) : Prop :=
  record.parameters.own[Row.indexField]? = some (Numeral.text record.index)

/-- The records of sources are numbered like their rows. -/
theorem positioned_of_attachAll
    (run : (attachAll config files generators).outcome network = (.ok (), after)) :
    ∃ additions, after.attachments.toList = network.attachments.toList ++ additions ∧
      ∀ record ∈ additions, config.KeepsPositions record.rule → Positioned record := by
  obtain ⟨sourceRows, read, run⟩ := outcome_ofExcept_bind_eq_ok.mp run
  obtain ⟨additions, stored, made⟩ := exists_rowsFor_of_attachRules run
  refine ⟨additions, stored, fun record listed keeps => ?_⟩
  obtain ⟨rule, member, name, seen, owner, rows, given, found⟩ := made record listed
  obtain ⟨known, attaches⟩ := List.mem_filter.mp member
  rw [rowsFor, (keeps rule known name attaches).1] at given
  cases given
  rw [name, Std.ExtTreeMap.getD_eq_getD_getElem?] at found
  cases look : sourceRows[record.rule]? with
  | none =>
    rw [look] at found
    cases found
  | some rows =>
    rw [look] at found
    obtain ⟨maker, known, name, source, own, made⟩ := Source.exists_of_allRows read look
    obtain ⟨plain, read, rfl⟩ := Outcome.map_eq_ok.mp made
    have attaches : maker.attaches = true := by rw [ParameterRule.attaches, own]; rfl
    have other := (keeps maker known name attaches).2
    exact (Source.numbered_rows read).derive other _ _ found

end Attaching

/-- What holds the position of a row, from the source to the plan. -/
structure RowsNumbered (config : Config) (files : TextFiles) : Prop where
  /-- The rows of a source hold their positions. -/
  sources : ∀ source rows, Source.rows config files source = .ok rows → Row.Numbered rows
  /-- So do the records that are added to a network. -/
  attached : ∀ generators network after,
    (Attaching.attachAll config files generators).outcome network = (.ok (), after) →
      ∃ additions, after.attachments.toList = network.attachments.toList ++ additions ∧
        ∀ record ∈ additions, config.KeepsPositions record.rule → Attaching.Positioned record
  /-- So do the records that a plan shows. -/
  compiled : ∀ topology plan, Plan.compile config files topology = .ok plan →
    ∀ object ∈ plan.objects, ∀ record ∈ object.records, config.KeepsPositions record.rule →
      record.params[Row.indexField]? = some (Numeral.text record.index)
  /-- In a valid configuration these are the records of all rules with a source, unless the rule
  derives a field of that name. -/
  valid : config.validate = .ok () → ∀ rule ∈ config.rules, rule.source.isSome = true →
    Row.indexField ∉ rule.formats → config.KeepsPositions rule.name

/-- Rows and the records that are made from them have the same positions. -/
theorem rowsNumbered (config : Config) (files : TextFiles) : RowsNumbered config files where
  sources _ _ read := Source.numbered_rows read
  attached _ _ _ run := Attaching.positioned_of_attachAll run
  valid accepted _ listed := Config.keepsPositions_of_validate accepted listed
  compiled topology plan run := by
    obtain ⟨compiler, extended, order, viewed, made, reached, views, _, shown⟩ :=
      Plan.exists_of_compile run
    obtain ⟨nodeClasses, same⟩ := Compiler.exists_nodeClasses_of_ofConfig made
    cases reached with
    | @extended after reached =>
      cases reached with
      | @assigned network _ reached assignment =>
        obtain ⟨filled, untouched, attach⟩ := Assignment.exists_attachAll assignment
        have empty := (Compiler.unattached_of_reached reached).congr untouched.1
        obtain ⟨additions, stored, positioned⟩ := Attaching.positioned_of_attachAll attach
        rw [empty.attachments, Array.toList_empty, List.nil_append] at stored
        obtain ⟨_, _, _, rfl⟩ := View.build_eq_ok views
        intro object listed record member keeps
        obtain ⟨scope, _, shows⟩ := Plan.exists_scope_shown shown listed
        rw [shows.records, Plan.recordsOf_of_store (View.attachments_store _ _)] at member
        obtain ⟨attachment, owned, rfl⟩ := List.mem_map.mp member
        have added := (List.mem_filter.mp owned).1
        rw [Compiler.attachments_giveParameters, stored] at added
        exact positioned attachment added (by rw [same]; exact keeps)

namespace Register

/-- A rule whose rows are records of a file, with a field that shows their positions. -/
def entry : ParameterRule where
  name := "entry"
  source := some { kind := .file, file := some "entries.csv" }
  formats := Table.setAll {} [("label", "\x7b\x7bindex\x7d\x7d \x7b\x7bname\x7d\x7d")]

/-- One class of nodes requests the rule. -/
def config : Config where
  name := "register"
  rules := [entry]
  nodeClasses := [{ name := "book", params := ["entry"] }]

/-- Two records with numbers of their own, and empty lines around them. -/
def files : TextFiles where
  text _ := .ok "name,index\r\n\r\nlast,2\n\nfirst,1\n"

/-- One node that requests the rule. -/
def topology : Topology where
  nodes := [{ name := "a", labels := ["book"] }]

/-- The numbers of the file give way to positions, which derived fields see. -/
theorem rowsNumbered_of_register :
    RowsNumbered config files ∧ config.validate = .ok () ∧ config.KeepsPositions "entry" ∧
      ∃ plan, Plan.compile config files topology = .ok plan ∧
        (plan.objects.flatMap (·.records)).map (fun record =>
          (record.index, record.params["index"]?, record.params["label"]?)) =
            [(0, some "0", some "0 last"), (1, some "1", some "1 first")] := by
  have numbered := rowsNumbered config files
  have valid : config.validate = .ok () := by decide +kernel
  have succeeds : (Plan.compile config files topology).isOk = true := by decide +kernel
  refine ⟨numbered, valid, numbered.valid valid entry List.mem_cons_self rfl (by decide +kernel), _,
    Outcome.eq_ok_of_isOk default succeeds, by decide +kernel⟩

end Register

end TopoPlan
