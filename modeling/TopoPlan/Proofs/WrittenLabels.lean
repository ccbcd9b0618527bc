import TopoPlan.Label
import TopoPlan.Proofs.Text.Cutting
import TopoPlan.Proofs.Text.Lines
import TopoPlan.Proofs.Text.Tables
import TopoPlan.Proofs.Text.Trimming

/-!
# Labels read back

A label is one of five kinds, and its text shows which.  `Written` describes the lists of texts
that a sequence of labels can be written as: in any grouping, with blanks and empty items
between the labels.  `classified_of_written` says that whichever was chosen, the labels are
found again, each in its place.
-/

namespace TopoPlan

/-- A label of a topology element, by its kind. -/
inductive Label where
  | className (name : String)
  | relational (kind name : String)
  | place (name : String)
  | value (key content : String)
  | reference (aliasName target : String)
  deriving DecidableEq

namespace Label

/-- The text of a label. -/
def text : Label → String
  | className name => name
  | relational kind name => kind ++ "#" ++ name
  | place name => "@" ++ name
  | value key content => key ++ "=" ++ content
  | reference aliasName target => "@" ++ (aliasName ++ "=" ++ target)

/-- What a label may be put together from: trimmed texts without separators of labels. -/
structure Part (part : String) : Prop where
  trimmed : Text.trim part = part
  whole : ∀ character ∈ part.toList, Labels.isSeparator character = false

instance (part : String) : Decidable (Part part) :=
  decidable_of_iff (Text.trim part = part ∧ part.toList.all (!Labels.isSeparator ·) = true)
    ⟨fun ⟨trimmed, whole⟩ => ⟨trimmed, by simpa using whole⟩,
      fun part => ⟨part.trimmed, by simpa using part.whole⟩⟩

/-- Labels whose texts show their kinds. -/
inductive Proper : Label → Prop where
  | className {name : String} (part : Part name) (nonempty : name ≠ "")
      (start : name.toList.head? ≠ some '@') (unrelated : '#' ∉ name.toList)
      (valueless : '=' ∉ name.toList) : Proper (className name)
  | relational {kind name : String} (first : Part kind) (second : Part name)
      (start : kind.toList.head? ≠ some '@') (single : '#' ∉ kind.toList)
      (valuelessKind : '=' ∉ kind.toList) (valueless : '=' ∉ name.toList) :
    Proper (relational kind name)
  | place {name : String} (part : Part name) (valueless : '=' ∉ name.toList) : Proper (place name)
  | value {key content : String} (first : Part key) (second : Part content)
      (start : key.toList.head? ≠ some '@') (single : '=' ∉ key.toList) :
    Proper (value key content)
  | reference {aliasName target : String} (first : Part aliasName) (second : Part target)
      (single : '=' ∉ aliasName.toList) : Proper (reference aliasName target)

/-- The class that a label names. -/
def className? : Label → Option String
  | className name => some name
  | _ => none

/-- The class that a label addresses to a related object. -/
def relational? : Label → Option RelationalLabel
  | relational kind name => some ⟨kind, name⟩
  | _ => none

/-- The place that a label names. -/
def place? : Label → Option String
  | place name => some name
  | _ => none

/-- The parameter that a label gives, with its key. -/
def value? : Label → Option (String × String)
  | value key content => some (key, content)
  | _ => none

/-- The place that a label refers to, with its alias. -/
def reference? : Label → Option (String × String)
  | reference aliasName target => some (aliasName, target)
  | _ => none

end Label

namespace Labels

/-! ## Texts of labels -/

/-- A text without separators that holds a label or none, apart from blanks. -/
inductive WrittenItem : List Label → List Char → Prop where
  | nothing {blanks : List Char} (blank : ∀ character ∈ blanks, Text.isBlank character = true) :
    WrittenItem [] blanks
  | label {label : Label} {before after : List Char}
      (blankBefore : ∀ character ∈ before, Text.isBlank character = true)
      (blankAfter : ∀ character ∈ after, Text.isBlank character = true) :
    WrittenItem [label] (before ++ label.text.toList ++ after)

/-- Items with separators between them. -/
inductive WrittenText : List Label → List Char → Prop where
  | single {labels : List Label} {item : List Char} (written : WrittenItem labels item) :
    WrittenText labels item
  | join {labels others : List Label} {item text : List Char} {separator : Char}
      (written : WrittenItem labels item) (separates : isSeparator separator = true)
      (rest : WrittenText others text) :
    WrittenText (labels ++ others) (item ++ separator :: text)

/-- Labels in several texts. -/
inductive Written : List Label → List String → Prop where
  | nil : Written [] []
  | cons {labels others : List Label} {text : String} {texts : List String}
      (written : WrittenText labels text.toList) (rest : Written others texts) :
    Written (labels ++ others) (text :: texts)

/-- The labels of a list by their kinds: classes, relational classes and places in their order,
and the first value of each key and alias. -/
structure Classified (labels : List Label) (found : Labels) : Prop where
  classes : found.classes = labels.filterMap Label.className?
  relational : found.relational = labels.filterMap Label.relational?
  places : found.places = labels.filterMap Label.place?
  values : ∀ key, found.values[key]? = (labels.filterMap Label.value?).lookup key
  aliases : ∀ name, found.aliases[name]? = (labels.filterMap Label.reference?).lookup name

/-! ## Splitting -/

/-- A part of a label has no blanks to trim. -/
theorem trimList_of_part {part : String} (sound : Label.Part part) :
    Text.trimList part.toList = part.toList := by
  have same := congrArg String.toList sound.trimmed
  rwa [Text.trim, String.toList_ofList] at same

/-- The text of a label is trimmed. -/
theorem trimList_text {label : Label} (proper : label.Proper) :
    Text.trimList label.text.toList = label.text.toList := by
  cases proper with
  | className part => exact trimList_of_part part
  | @relational kind name first second =>
    have joined := Text.trimList_join '#' rfl (trimList_of_part first)
      (trimList_of_part second)
    simpa [Label.text] using joined
  | @place name part =>
    have joined := Text.trimList_join '@' rfl Text.trimList_nil (trimList_of_part part)
    simpa [Label.text] using joined
  | @value key content first second =>
    have joined := Text.trimList_join '=' rfl (trimList_of_part first)
      (trimList_of_part second)
    simpa [Label.text] using joined
  | @reference aliasName target first second =>
    have inner := Text.trimList_join '=' rfl (trimList_of_part first)
      (trimList_of_part second)
    have joined := Text.trimList_join '@' rfl Text.trimList_nil inner
    simpa [Label.text] using joined

/-- No separator is a blank. -/
theorem isSeparator_of_blank {character : Char} (blank : Text.isBlank character = true) :
    isSeparator character = false := by
  rw [isSeparator, Bool.or_eq_false_iff, beq_eq_false_iff_ne, beq_eq_false_iff_ne]
  constructor
  · rintro rfl
    exact absurd blank (by decide)
  · rintro rfl
    exact absurd blank (by decide)

/-- There are no separators in the text of a label. -/
theorem isSeparator_of_text {label : Label} (proper : label.Proper) :
    ∀ character ∈ label.text.toList, isSeparator character = false := by
  have mark : ∀ mark ∈ ["@", "=", "#"], ∀ character ∈ mark.toList,
      isSeparator character = false := by
    simp [isSeparator]
  cases proper with
  | className part => exact part.whole
  | relational first second =>
    simp only [Label.text, String.toList_append, List.forall_mem_append]
    exact ⟨⟨first.whole, mark "#" (by simp)⟩, second.whole⟩
  | place part =>
    simp only [Label.text, String.toList_append, List.forall_mem_append]
    exact ⟨mark "@" (by simp), part.whole⟩
  | value first second =>
    simp only [Label.text, String.toList_append, List.forall_mem_append]
    exact ⟨⟨first.whole, mark "=" (by simp)⟩, second.whole⟩
  | reference first second =>
    simp only [Label.text, String.toList_append, List.forall_mem_append]
    exact ⟨mark "@" (by simp), ⟨first.whole, mark "=" (by simp)⟩, second.whole⟩

/-- A proper label is not an empty text. -/
theorem text_nonempty {label : Label} (proper : label.Proper) : label.text.toList ≠ [] := by
  cases proper with
  | className _ nonempty => exact fun none => nonempty (String.toList_eq_nil_iff.mp none)
  | relational | place | value | reference => simp [Label.text]

/-- A separator divides the labels of a text. -/
theorem splitText_append {separator : Char} (separates : isSeparator separator = true)
    (before after : List Char) :
    splitText (String.ofList (before ++ separator :: after)) =
      splitText (String.ofList before) ++ splitText (String.ofList after) := by
  have pieces : (before ++ separator :: after).splitOnP isSeparator =
      before.splitOnP isSeparator ++ after.splitOnP isSeparator :=
    List.splitOnP_append_cons _ _ separates
  simp only [splitText, String.toList_ofList, Text.splitWhere_eq_splitOnP, pieces, List.map_append,
    List.filter_append]

/-- A text without separators is trimmed, and is a label unless nothing is left. -/
theorem splitText_whole {item : List Char}
    (whole : ∀ character ∈ item, isSeparator character = false) :
    splitText (String.ofList item) =
      ([Text.trimList item].filter fun label => !label.isEmpty).map String.ofList := by
  rw [splitText, String.toList_ofList, Text.splitWhere_eq_splitOnP,
    List.splitOnP_eq_singleton whole, List.map_singleton]

/-- An item holds the labels that it was written from. -/
theorem splitText_of_item {labels : List Label} {item : List Char}
    (written : WrittenItem labels item) (proper : ∀ label ∈ labels, label.Proper) :
    splitText (String.ofList item) = labels.map Label.text := by
  cases written with
  | nothing blank =>
    rw [splitText_whole fun _ listed => isSeparator_of_blank (blank _ listed),
      Text.trimList_of_blank blank]
    rfl
  | @label label before after blankBefore blankAfter =>
    have sound := List.forall_mem_singleton.mp proper
    have whole : ∀ character ∈ before ++ label.text.toList ++ after,
        isSeparator character = false := by
      rw [List.forall_mem_append, List.forall_mem_append]
      exact ⟨⟨fun _ listed => isSeparator_of_blank (blankBefore _ listed),
        isSeparator_of_text sound⟩, fun _ listed => isSeparator_of_blank (blankAfter _ listed)⟩
    have kept : [label.text.toList].filter (fun text => !text.isEmpty) = [label.text.toList] :=
      List.filter_eq_self.mpr fun text listed => by
        rw [List.mem_singleton.mp listed]
        simpa using text_nonempty sound
    rw [splitText_whole whole, Text.trimList_append (trimList_text sound) (text_nonempty sound)
      blankBefore blankAfter, kept, List.map_singleton, String.ofList_toList, List.map_singleton]

/-- A text holds the labels that it was written from. -/
theorem splitText_of_written {labels : List Label} {text : List Char}
    (written : WrittenText labels text) (proper : ∀ label ∈ labels, label.Proper) :
    splitText (String.ofList text) = labels.map Label.text := by
  induction written with
  | single written => exact splitText_of_item written proper
  | join written separates rest inductionHypothesis =>
    obtain ⟨first, others⟩ := List.forall_mem_append.mp proper
    rw [splitText_append separates, splitText_of_item written first, inductionHypothesis others,
      List.map_append]

/-- Texts hold the labels that they were written from, in their order. -/
theorem split_of_written {labels : List Label} {texts : List String}
    (written : Written labels texts) (proper : ∀ label ∈ labels, label.Proper) :
    split texts = labels.map Label.text := by
  induction written with
  | nil => rfl
  | cons written rest inductionHypothesis =>
    obtain ⟨first, others⟩ := List.forall_mem_append.mp proper
    have here := splitText_of_written written first
    rw [String.ofList_toList] at here
    rw [split, List.flatMap_cons, here, ← split, inductionHypothesis others, List.map_append]

/-! ## Classifying -/

/-- Put a label in its place. -/
def put (labels : Labels) : Label → Labels
  | .className name => { labels with classes := labels.classes ++ [name] }
  | .relational kind name => { labels with relational := labels.relational ++ [⟨kind, name⟩] }
  | .place name => { labels with places := labels.places ++ [name] }
  | .value key content => { labels with values := labels.values.insertIfNew key content }
  | .reference aliasName target =>
    { labels with aliases := labels.aliases.insertIfNew aliasName target }

/-- The text of a label is put in the place of its kind. -/
theorem add_text {label : Label} (proper : label.Proper) (labels : Labels) :
    add labels label.text = put labels label := by
  have marked {text : String} (start : text.toList.head? ≠ some '@') :
      Text.after? "@" text = none := Text.after?_eq_none rfl start
  have placed (text : String) : Text.after? "@" ("@" ++ text) = some text :=
    Text.after?_append "@" text
  cases proper with
  | @className name part nonempty start unrelated valueless =>
    simp only [add, Label.text, marked start, Text.cutOnce_eq_none valueless,
      Text.cutOnce_eq_none unrelated, put]
  | @relational kind name first second start single valuelessKind valueless =>
    have cut : Text.cutOnce '#' (kind ++ "#" ++ name) = some (kind, name) :=
      Text.cutOnce_append '#' single name
    have begins : (kind ++ "#" ++ name).toList.head? ≠ some '@' := by
      cases characters : kind.toList <;> simp_all
    have uncut : '=' ∉ (kind ++ "#" ++ name).toList := by simp_all
    simp only [add, Label.text, marked begins, Text.cutOnce_eq_none uncut, cut, first.trimmed,
      second.trimmed, put]
  | @place name part valueless =>
    simp only [add, Label.text, placed, Text.cutOnce_eq_none valueless, put]
  | @value key content first second start single =>
    have cut : Text.cutOnce '=' (key ++ "=" ++ content) = some (key, content) :=
      Text.cutOnce_append '=' single content
    have begins : (key ++ "=" ++ content).toList.head? ≠ some '@' := by
      cases characters : key.toList <;> simp_all
    simp only [add, Label.text, marked begins, cut, first.trimmed, second.trimmed, put]
  | @reference aliasName target first second single =>
    have cut : Text.cutOnce '=' (aliasName ++ "=" ++ target) = some (aliasName, target) :=
      Text.cutOnce_append '=' single target
    simp only [add, Label.text, placed, cut, first.trimmed, second.trimmed, put]

/-- A new key comes after those that there are. -/
theorem getElem?_insertIfNew (table : Table String) (name key value : String) :
    (table.insertIfNew key value)[name]? = table[name]?.or ([(key, value)].lookup name) :=
  show (table.addAll [(key, value)])[name]? = _ from Table.getElem?_addAll

/-- One label more is put after the others. -/
theorem Classified.put {labels : List Label} {found : Labels} (classified : Classified labels found)
    (label : Label) : Classified (labels ++ [label]) (found.put label) := by
  constructor
  case classes =>
    rw [List.filterMap_append, ← classified.classes]
    cases label <;> simp [Labels.put, Label.className?]
  case relational =>
    rw [List.filterMap_append, ← classified.relational]
    cases label <;> simp [Labels.put, Label.relational?]
  case places =>
    rw [List.filterMap_append, ← classified.places]
    cases label <;> simp [Labels.put, Label.place?]
  case values =>
    intro key
    rw [List.filterMap_append, List.lookup_append, ← classified.values]
    cases label with
    | value => exact getElem?_insertIfNew _ _ _ _
    | className | relational | place | reference => exact (Option.or_none).symm
  case aliases =>
    intro name
    rw [List.filterMap_append, List.lookup_append, ← classified.aliases]
    cases label with
    | reference => exact getElem?_insertIfNew _ _ _ _
    | className | relational | place | value => exact (Option.or_none).symm

/-- Labels are classified, in whatever way they were written. -/
theorem classified_of_written {labels : List Label} {texts : List String}
    (proper : ∀ label ∈ labels, label.Proper) (written : Written labels texts) :
    Classified labels (ofTexts texts) := by
  rw [ofTexts, split_of_written written proper]
  clear written
  induction labels using List.reverseRecOn with
  | nil =>
    exact ⟨rfl, rfl, rfl, fun _ => Std.ExtTreeMap.getElem?_empty,
      fun _ => Std.ExtTreeMap.getElem?_empty⟩
  | append_singleton labels label inductionHypothesis =>
    obtain ⟨earlier, last⟩ := List.forall_mem_append.mp proper
    rw [List.map_append, List.foldl_append, List.map_singleton, List.foldl_cons, List.foldl_nil,
      add_text (List.forall_mem_singleton.mp last)]
    exact (inductionHypothesis earlier).put label

end Labels

namespace Gallery

open Labels

/-- Labels of all kinds, two of them with one key. -/
def labels : List Label :=
  [.value "asn" "1#a=b", .className "ospf v2", .reference "up" "core=2",
    .relational "segment" "lan#x", .value "asn" "2", .place ""]

/-- The labels in four texts, one of them without any. -/
def texts : List String :=
  [" asn=1#a=b ;,ospf v2", "\t", ";@up=core=2,segment#lan#x ", "asn=2;@"]

/-- All labels are found: the first value of the key counts, and the bare mark names a place. -/
theorem classified_of_gallery :
    (∀ label ∈ labels, label.Proper) ∧ Written labels texts ∧ Classified labels (ofTexts texts) ∧
      (ofTexts texts).values["asn"]? = some "1#a=b" ∧ (ofTexts texts).places = [""] := by
  have proper : ∀ label ∈ labels, label.Proper := by
    rw [labels, List.forall_mem_cons, List.forall_mem_cons, List.forall_mem_cons,
      List.forall_mem_cons, List.forall_mem_cons, List.forall_mem_singleton]
    refine ⟨.value ?_ ?_ ?_ ?_, .className ?_ ?_ ?_ ?_ ?_, .reference ?_ ?_ ?_,
      .relational ?_ ?_ ?_ ?_ ?_ ?_, .value ?_ ?_ ?_ ?_, .place ?_ ?_⟩
    all_goals decide +kernel
  have blank : ∀ character ∈ [' '], Text.isBlank character = true := List.all_eq_true.mp rfl
  have none : ∀ character ∈ [], Text.isBlank character = true := List.forall_mem_nil _
  have separates : isSeparator ',' = true ∧ isSeparator ';' = true := by decide
  have item (label : Label) {before after : List Char}
      (blankBefore : ∀ character ∈ before, Text.isBlank character = true)
      (blankAfter : ∀ character ∈ after, Text.isBlank character = true) :
      WrittenItem [label] (before ++ label.text.toList ++ after) := .label blankBefore blankAfter
  have first : WrittenText _ " asn=1#a=b ;,ospf v2".toList :=
    (congrArg (WrittenText _) (by decide +kernel)).mp
      (.join (item (.value "asn" "1#a=b") blank blank) separates.2
        (.join (.nothing none) separates.1 (.single (item (.className "ospf v2") none none))))
  have second : WrittenText _ "\t".toList := .single (.nothing (List.all_eq_true.mp rfl))
  have third : WrittenText _ ";@up=core=2,segment#lan#x ".toList :=
    (congrArg (WrittenText _) (by decide +kernel)).mp
      (.join (.nothing none) separates.2
        (.join (item (.reference "up" "core=2") none none) separates.1
          (.single (item (.relational "segment" "lan#x") none blank))))
  have last : WrittenText _ "asn=2;@".toList :=
    (congrArg (WrittenText _) (by decide +kernel)).mp
      (.join (item (.value "asn" "2") none none) separates.2
        (.single (item (.place "") none none)))
  have written : Written labels texts := .cons first (.cons second (.cons third (.cons last .nil)))
  exact ⟨proper, written, classified_of_written proper written, by decide +kernel,
    by decide +kernel⟩

end Gallery

end TopoPlan
