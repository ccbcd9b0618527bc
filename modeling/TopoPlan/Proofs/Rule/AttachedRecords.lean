import TopoPlan.Proofs.PlanObjects
import TopoPlan.Proofs.Rule.Attachments
import TopoPlan.Proofs.Rule.TakenOver

/-!
# Records of attach rules

An attach rule gives an object that requests it one record for each of its rows, and nothing
else: no plain parameter, and no record to anybody else.
-/

namespace TopoPlan

/-- Rules have different names, none of them reserved. -/
structure SoundRules (rules : List ParameterRule) : Prop where
  once : (rules.map (·.name)).Nodup
  unreserved : ∀ rule ∈ rules, ParamName.fault? rule.name = none

/-- The rules of a valid configuration are sound. -/
theorem soundRules_of_validate {config : Config} (valid : config.validate = .ok ()) :
    SoundRules config.rules :=
  ⟨Config.ruleNames_nodup valid, fun _ => Config.fault?_of_rule valid⟩

namespace Network

/-- The network as it was when some rules had given their records, and no others. -/
def afterRules (network : Network) (rules : List ParameterRule) : Network :=
  network.upTo (network.attachments.toList.countP fun attachment =>
    attachment.rule ∈ rules.map (·.name))

end Network

namespace Assignment

open Network Stage TopoPlan.Distribution

variable {config : Config} {files : TextFiles} {generators : Generators}
  {network before after : Network} {rule : ParameterRule}

/-! ## Plain parameters -/

section Parameters

variable (sound : SoundRules config.rules) (listed : rule ∈ config.rules)
  (attaches : rule.attaches = true) (scope : Scope)

include sound listed attaches

/-- No turn of the distribution gives the parameter of an attach rule. -/
theorem distributeRule_unaltered (grouping : Grouping) (name : String) (objects : List Scope) :
    Within (unaltered rule.name scope) (distributeRule config files grouping name objects) := by
  by_cases own : name = rule.name
  · have found : config.rule? rule.name = some rule := Config.find?_of_names sound.once listed
    refine within_get_bind fun network => holds_ofExcept_bind fun requested request => ?_
    rw [own, requestedRule, found] at request
    cases request
    rw [if_pos attaches]
    exact (unaltered rule.name scope).refl network
  · exact distributeRule_holds fun _ _ _ _ _ _ _ _ _ _ => unaltered_set fun _ => own

/-- The assignment to the objects of a kind leaves what another rule gives as it is. -/
theorem assignKind_spares (scopes : Network → List Scope) :
    Within (unaltered rule.name scope) (assignKind config files scopes) := by
  refine within_bind (within_modify fun current => ?_) fun _ =>
    within_bind within_get fun _ => distribute_holds fun name objects _ =>
      distributeRule_unaltered sound listed attaches scope eachAlone name objects
  exact (unaltered rule.name scope).foldl (fun current => current)
    (fun _ _ => unaltered_set fun _ =>
      (ParamName.ne_objectName_of_fault? (sound.unreserved rule listed)).symm) current _

/-- The assignment to the interfaces leaves what another rule gives as it is. -/
theorem assignInterfaces_spares :
    Within (unaltered rule.name scope) (assignInterfaces config files) := by
  refine within_bind within_get fun _ => within_bind (within_modify fun current => ?_) fun _ =>
    distribute_holds fun name objects _ =>
      distributeRule_unaltered sound listed attaches scope (shared config) name objects
  refine (unaltered rule.name scope).foldl (fun current => current) (fun current id => ?_) current _
  rw [takeOver_eq]
  exact unaltered_updateParameters fun _ parameters =>
    ⟨rfl, parameters.get?_setAll_of_not_mem (not_mem_takenOver (sound.unreserved rule listed) id)⟩

/-- Attach rules give no plain parameters, and the assignment requests nothing. -/
theorem assignAll_spares :
    Within (unaltered rule.name scope) (assignAll config files generators) := by
  refine within_bind (within_modify fun _ => unaltered_set fun _ =>
    (ParamName.ne_objectName_of_fault? (sound.unreserved rule listed)).symm) fun _ => ?_
  refine within_bind (assignKind_spares sound listed attaches scope _) fun _ => ?_
  refine within_bind (assignKind_spares sound listed attaches scope _) fun _ => ?_
  refine within_bind (assignKind_spares sound listed attaches scope _) fun _ => ?_
  refine within_bind (assignKind_spares sound listed attaches scope _) fun _ => ?_
  exact within_bind (assignInterfaces_spares sound listed attaches scope) fun _ =>
    Attaching.attachAll_unaltered config files generators rule.name scope

end Parameters

/-! ## Records -/

/-- The rows of an attach rule for an object: those that its generator makes from a network, or
those of its source, with the derived fields of the rule. -/
def Produces (config : Config) (files : TextFiles) (generators : Generators)
    (rule : ParameterRule) (seen : Network) (owner : Scope) (rows : List Row) : Prop :=
  ∃ found, rows = found.map (Row.derive rule.formats) ∧
    match rule.generatorName? with
    | some name => generators.rows name config seen owner = .ok found
    | none => ∃ source, rule.source = some source ∧ Source.rows config files source = .ok found

/-- Every object has the records of the attach rules that it requests, and nobody has any
others. -/
structure Attached (config : Config) (files : TextFiles) (generators : Generators)
    (before after : Network) : Prop where
  /-- An object that requests an attach rule has a record for each row, in their order.  A
  generator sees the network with the records of the rules before its own. -/
  requested : ∀ front rule rest, config.rules = front ++ rule :: rest → rule.attaches = true →
    ∀ owner : Scope, owner.MayOwn → before.Has owner →
      (before.parametersOf owner).hasFlag rule.name = true →
        ∃ rows, Produces config files generators rule (after.afterRules front) owner rows ∧
          after.attachmentsBy rule.name owner = Attaching.records rule.name owner rows
  /-- Any other object has none. -/
  unrequested : ∀ name owner, (before.parametersOf owner).hasFlag name = false →
    after.attachmentsBy name owner = []
  /-- All records are of attach rules, and of objects of the kinds that may have some. -/
  owned : ∀ attachment ∈ after.attachments, attachment.owner.MayOwn ∧
    before.Has attachment.owner ∧
      ∃ rule ∈ config.rules, rule.attaches = true ∧ rule.name = attachment.rule
  /-- The records of an object are in the order of the rules. -/
  ordered : ∀ owner, after.attachmentsOf owner =
    config.rules.flatMap fun rule => after.attachmentsBy rule.name owner
  /-- Objects list the records that they own. -/
  entered : after.Entered
  /-- Attach rules give no plain parameters. -/
  parameters : ∀ rule ∈ config.rules, rule.attaches = true → ∀ scope,
    after.ownValue? rule.name scope = before.ownValue? rule.name scope

section Records

/-- A network without records. -/
structure Unattached (network : Network) : Prop where
  ports : ListedOnce network.interfaces.size (fun id => (network.interface id).node)
    fun id => (network.node id).interfaces
  attachments : network.attachments = #[]
  lists : ∀ scope, network.attachmentsAt scope = []

/-- A well-formed network whose arena is empty lists no attachments. -/
theorem unattached_of_wellFormed (wellFormed : network.WellFormed)
    (none : network.attachments = #[]) : Unattached network := by
  refine ⟨wellFormed.interfaces, none, fun scope => List.eq_nil_iff_forall_not_mem.mpr ?_⟩
  intro id listed
  have inside := (wellFormed.attachments.mem_iff.mp listed).1
  rw [none] at inside
  exact Nat.not_lt_zero id inside

/-- References and records are the same until records are attached. -/
theorem Unattached.congr (unattached : Unattached before) (same : joined.holds before after) :
    Unattached after where
  ports := unattached.ports.congr same.1.sameLinks.interfaceCount same.1.sameLinks.node
    same.1.sameLinks.ports
  attachments := by
    refine Array.eq_empty_of_size_eq_zero ?_
    rw [same.2.size, unattached.attachments]
    rfl
  lists scope := (same.2.listed scope).trans (unattached.lists scope)

theorem Unattached.entered (unattached : Unattached network) : network.Entered := by
  intro scope
  rw [unattached.lists, unattached.attachments]
  rfl

/-- The assignment attaches records to a network with the same references. -/
theorem exists_attachAll
    (run : (assignAll config files generators).outcome network = (.ok (), after)) :
    ∃ filled, untouched.holds network filled ∧
      (Attaching.attachAll config files generators).outcome filled = (.ok (), after) := by
  obtain ⟨dealt, filled, deal, fill, attach⟩ := assignAll_eq_ok run
  have dealing : Within untouched
      (singleKinds.forM fun kind => assignKind config files (·.objectsOf kind)) :=
    within_forM fun _ _ => assignKind_within untouched_valueless config files _
  have filling : Within untouched (assignInterfaces config files) :=
    assignInterfaces_within untouched_valueless config files
  have start := untouched_valueless.parameters network .network
    (·.set ParamName.objectName config.name)
  exact ⟨filled, untouched.trans start (untouched.trans (dealing.holds deal) (filling.holds fill)),
    attach⟩

end Records

end Assignment

namespace Attaching

open Network Stage Assignment

variable {config : Config} {files : TextFiles} {generators : Generators}
  {sourceRows : Table (List Row)} {network after seen : Network} {rule : ParameterRule}
  {owner : Scope} {rows : List Row}

/-- The rows that are attached are those that the rule makes. -/
theorem produces_of_rowsFor (sound : SoundRules config.rules)
    (read : Source.allRows config files = .ok sourceRows) (listed : rule ∈ config.rules)
    (attaches : rule.attaches = true)
    (made : rowsFor config generators sourceRows seen rule owner = .ok rows) :
    Produces config files generators rule seen owner rows := by
  unfold Produces
  unfold rowsFor at made
  cases generator : rule.generatorName? with
  | some name =>
    rw [generator] at made
    obtain ⟨found, generated, rfl⟩ := Outcome.map_eq_ok.mp made
    exact ⟨found, rfl, generated⟩
  | none =>
    rw [generator] at made
    cases made
    have has : rule.source.isSome = true := by
      rw [ParameterRule.attaches, generator] at attaches
      simpa using attaches
    obtain ⟨source, own⟩ := Option.isSome_iff_exists.mp has
    obtain ⟨rows, derived, look⟩ := Source.getElem?_allRows sound.once read listed own
    obtain ⟨found, read, rfl⟩ := Outcome.map_eq_ok.mp derived
    refine ⟨found, ?_, source, own, read⟩
    rw [Std.ExtTreeMap.getD_eq_getD_getElem?, look, Option.getD_some]

/-- Filters by owner and by rule in the other order. -/
theorem attachmentsBy_eq (network : Network) (name : String) (owner : Scope) :
    network.attachmentsBy name owner =
      (network.attachments.toList.filter fun attachment => attachment.rule = name).filter
        fun attachment => attachment.owner = owner := by
  unfold attachmentsBy attachmentsOf
  exact List.filter_comm _ _ _

/-- Records of some rules are none of another one. -/
theorem filter_eq_nil_of_named {rules : List ParameterRule} {additions : List Attachment}
    (named : ∀ added ∈ additions, added.rule ∈ rules.map (·.name)) {name : String}
    (absent : name ∉ rules.map (·.name)) :
    additions.filter (fun added => added.rule = name) = [] := by
  refine List.filter_eq_nil_iff.mpr fun added listed same => absent ?_
  exact of_decide_eq_true same ▸ named added listed

/-- What rules add keeps the lists of objects complete. -/
theorem AddedBy.entered {rules : List ParameterRule} {additions : List Attachment}
    (added : AddedBy rules network additions) (unattached : Unattached network) :
    (additions.foldl addAttachment network).Entered := by
  refine unattached.entered.addAttachments fun record listed => ?_
  have owner := (List.mem_filter.mp (added.requested record listed)).1
  exact ⟨((mem_owners unattached.ports).mp owner).2, owner⟩

/-- What the attach rules among some rules add is named after these rules. -/
theorem AddedBy.named_of_filter {rules : List ParameterRule} {additions : List Attachment}
    (added : AddedBy (rules.filter (·.attaches)) network additions) :
    ∀ record ∈ additions, record.rule ∈ rules.map (·.name) :=
  fun record listed => (List.filter_sublist.map _).subset (added.named record listed)

/-- The network that a rule sees is what it is when the rules before have given their
records. -/
theorem afterRules_eq {rules : List ParameterRule} {earlier others : List Attachment}
    (unattached : Unattached network)
    (added : AddedBy (rules.filter (·.attaches)) network earlier)
    (apart : ∀ other ∈ others, other.rule ∉ rules.map (·.name)) :
    (others.foldl addAttachment (earlier.foldl addAttachment network)).afterRules rules =
      earlier.foldl addAttachment network := by
  have all : (others.foldl addAttachment
      (earlier.foldl addAttachment network)).attachments.toList = earlier ++ others := by
    rw [attachments_foldl_addAttachment, attachments_foldl_addAttachment, unattached.attachments,
      Array.toList_empty, List.nil_append]
  have size : (earlier.foldl addAttachment network).attachments.size = earlier.length := by
    rw [← Array.length_toList, attachments_foldl_addAttachment, unattached.attachments,
      Array.toList_empty, List.nil_append]
  have count : (earlier ++ others).countP (fun attachment =>
      attachment.rule ∈ rules.map (·.name)) = earlier.length := by
    rw [List.countP_append, List.countP_eq_length.mpr fun record listed =>
        decide_eq_true (added.named_of_filter record listed),
      List.countP_eq_zero.mpr fun other listed known =>
        apart other listed (of_decide_eq_true known),
      Nat.add_zero]
  rw [afterRules, all, count, ← size, upTo_foldl_addAttachment (Nat.le_refl _),
    (added.entered unattached).upTo_size]

/-- An object that requests a rule has the records of the rule for each row. -/
theorem requested_of_attachAll (sound : SoundRules config.rules) (unattached : Unattached network)
    (run : (attachAll config files generators).outcome network = (.ok (), after))
    {front rest : List ParameterRule} (split : config.rules = front ++ rule :: rest)
    (attaches : rule.attaches = true) (asks : owner ∈ requesting network rule.name) :
    ∃ rows, Produces config files generators rule (after.afterRules front) owner rows ∧
      after.attachmentsBy rule.name owner = records rule.name owner rows := by
  have member : rule ∈ config.rules := split ▸ List.mem_append_right front List.mem_cons_self
  have once := sound.once
  rw [split, List.map_append, List.map_cons, List.nodup_append, List.nodup_cons] at once
  obtain ⟨_, ⟨notLater, _⟩, different⟩ := once
  have notEarlier : rule.name ∉ front.map (·.name) :=
    fun listed => different _ listed _ List.mem_cons_self rfl
  obtain ⟨sourceRows, read, run⟩ := outcome_ofExcept_bind_eq_ok.mp run
  rw [split, List.filter_append, List.filter_cons_of_pos attaches] at run
  obtain ⟨before, first, run⟩ := outcome_forM_append_eq_ok.mp run
  obtain ⟨middle, turn, last⟩ := outcome_forM_cons_eq_ok.mp run
  obtain ⟨earlier, added, rfl⟩ := attachRules_eq_ok first
  obtain ⟨entries, asked, each, rfl⟩ := attachRule_eq_ok turn
  obtain ⟨later, addedLater, rfl⟩ := attachRules_eq_ok last
  have others : ∀ other ∈ given rule.name entries ++ later, other.rule ∉ front.map (·.name) := by
    intro other listed known
    rcases List.mem_append.mp listed with own | foreign
    · rw [(of_mem_given own).1] at known
      exact notEarlier known
    · refine different _ known _ (List.mem_cons_of_mem _ ?_) rfl
      exact addedLater.named_of_filter other foreign
  have seen := afterRules_eq unattached added others
  rw [← requesting_foldl_addAttachment network earlier] at asks
  obtain ⟨⟨_, rows⟩, listed, rfl⟩ := List.mem_map.mp (asked.symm ▸ asks)
  rw [← List.foldl_append, attachmentsBy_eq, seen]
  refine ⟨rows, produces_of_rowsFor sound read member attaches (each _ listed), ?_⟩
  have requests : (entries.map Prod.fst).Nodup := by
    rw [asked, requesting_foldl_addAttachment]
    exact (nodup_owners unattached.ports).filter _
  have own : (earlier ++ (given rule.name entries ++ later)).filter
      (fun record => record.rule = rule.name) = given rule.name entries := by
    rw [List.filter_append, List.filter_append,
      filter_eq_nil_of_named added.named_of_filter notEarlier,
      filter_eq_nil_of_named addedLater.named_of_filter notLater, List.nil_append, List.append_nil]
    exact List.filter_eq_self.mpr fun record known => decide_eq_true (of_mem_given known).1
  rw [attachments_foldl_addAttachment, attachments_foldl_addAttachment, unattached.attachments,
    Array.toList_empty, List.nil_append, own]
  exact filter_given requests listed

/-- Entries that contribute nothing may be left out. -/
theorem flatMap_filter_of_nil {α β : Type} {entries : List α} {keeps : α → Bool}
    {parts : α → List β} (idle : ∀ entry ∈ entries, keeps entry = false → parts entry = []) :
    (entries.filter keeps).flatMap parts = entries.flatMap parts := by
  induction entries with
  | nil => rfl
  | cons entry rest inductionHypothesis =>
    obtain ⟨first, others⟩ := List.forall_mem_cons.mp idle
    rw [List.flatMap_cons, ← inductionHypothesis others]
    cases kept : keeps entry with
    | true => rw [List.filter_cons_of_pos kept, List.flatMap_cons]
    | false => rw [List.filter_cons_of_neg (by simp [kept]), first kept, List.nil_append]

/-- The records of an object are in the order of the rules. -/
theorem AddedBy.attachmentsOf_eq {rules : List ParameterRule} {additions : List Attachment}
    (added : AddedBy (rules.filter (·.attaches)) network additions)
    (unattached : Unattached network) (once : (rules.map (·.name)).Nodup) (owner : Scope) :
    (additions.foldl addAttachment network).attachmentsOf owner =
      rules.flatMap fun rule =>
        (additions.foldl addAttachment network).attachmentsBy rule.name owner := by
  have parts := added.ordered (once.sublist (List.filter_sublist.map _))
  have idle (rule : ParameterRule) (listed : rule ∈ rules) (plain : rule.attaches = false) :
      additions.filter (fun record => record.rule = rule.name) = [] := by
    refine filter_eq_nil_of_named added.named fun known => ?_
    obtain ⟨other, known, name⟩ := List.mem_map.mp known
    obtain ⟨known, attaches⟩ := List.mem_filter.mp known
    rw [List.inj_on_of_nodup_map once known listed name, plain] at attaches
    cases attaches
  simp only [attachmentsBy_eq]
  rw [attachmentsOf, attachments_foldl_addAttachment, unattached.attachments, Array.toList_empty,
    List.nil_append]
  calc additions.filter (fun record => record.owner = owner)
      = ((rules.filter (·.attaches)).flatMap fun rule =>
          additions.filter fun record => record.rule = rule.name).filter
            fun record => record.owner = owner := by rw [← parts]
    _ = (rules.filter (·.attaches)).flatMap fun rule =>
          (additions.filter fun record => record.rule = rule.name).filter
            fun record => record.owner = owner := List.filter_flatMap
    _ = rules.flatMap fun rule =>
          (additions.filter fun record => record.rule = rule.name).filter
            fun record => record.owner = owner :=
      flatMap_filter_of_nil fun rule listed plain => by rw [idle rule listed plain]; rfl

/-- All rules together add records of attach rules to objects that request them. -/
theorem attachAll_eq_ok
    (run : (attachAll config files generators).outcome network = (.ok (), after)) :
    ∃ additions, AddedBy (config.rules.filter (·.attaches)) network additions ∧
      after = additions.foldl addAttachment network := by
  obtain ⟨_, _, run⟩ := outcome_ofExcept_bind_eq_ok.mp run
  exact attachRules_eq_ok run

end Attaching

namespace Assignment

open Network Stage

variable {config : Config} {files : TextFiles} {generators : Generators}
  {network after : Network}

/-- Attach rules whose names are different and not reserved give their records. -/
theorem attached_of_unattached (sound : SoundRules config.rules)
    (unattached : Unattached network)
    (run : (assignAll config files generators).outcome network = (.ok (), after)) :
    Attached config files generators network after := by
  obtain ⟨filled, same, attach⟩ := exists_attachAll run
  have empty := unattached.congr same.1
  have requests {rule : ParameterRule} (listed : rule ∈ config.rules)
      (attaches : rule.attaches = true) (owner : Scope) :
      (filled.parametersOf owner).hasFlag rule.name =
        (network.parametersOf owner).hasFlag rule.name := by
    have whole := (assignAll_spares sound listed attaches owner).holds run
    have last :=
      (Attaching.attachAll_unaltered config files generators rule.name owner).holds attach
    exact congrArg (·.contains rule.name) (last.1.symm.trans whole.1)
  obtain ⟨additions, added, rfl⟩ := Attaching.attachAll_eq_ok attach
  have records : (additions.foldl addAttachment filled).attachments.toList = additions := by
    rw [attachments_foldl_addAttachment, empty.attachments, Array.toList_empty, List.nil_append]
  have origin : ∀ record ∈ additions, record.owner.MayOwn ∧ network.Has record.owner ∧
      (network.parametersOf record.owner).hasFlag record.rule = true ∧
        ∃ rule ∈ config.rules, rule.attaches = true ∧ rule.name = record.rule := by
    intro record listed
    obtain ⟨owner, asks⟩ := List.mem_filter.mp (added.requested record listed)
    obtain ⟨may, has⟩ := (Attaching.mem_owners empty.ports).mp owner
    obtain ⟨rule, known, name⟩ := List.mem_map.mp (added.named record listed)
    obtain ⟨known, attaches⟩ := List.mem_filter.mp known
    rw [← name, requests known attaches] at asks
    exact ⟨may, (has_congr same.1.1.bulk record.owner).mp has, name ▸ asks, rule, known, attaches,
      name⟩
  refine ⟨?requested, ?unrequested, ?owned, ?ordered, added.entered empty, ?parameters⟩
  case requested =>
    intro front rule rest split attaches owner may has asks
    have member : rule ∈ config.rules := split ▸ List.mem_append_right front List.mem_cons_self
    refine Attaching.requested_of_attachAll sound empty attach split attaches ?_
    refine List.mem_filter.mpr ⟨(Attaching.mem_owners empty.ports).mpr ⟨may, ?_⟩, ?_⟩
    · exact (has_congr same.1.1.bulk owner).mpr has
    · rw [requests member attaches]
      exact asks
  case unrequested =>
    intro name owner idle
    rw [Attaching.attachmentsBy_eq, records, List.filter_filter]
    refine List.filter_eq_nil_iff.mpr fun record listed same => ?_
    rw [Bool.and_eq_true, decide_eq_true_iff, decide_eq_true_iff] at same
    obtain ⟨rfl, rfl⟩ := same
    obtain ⟨_, _, asks, _⟩ := origin record listed
    cases idle.symm.trans asks
  case owned =>
    intro record listed
    rw [← Array.mem_toList_iff, records] at listed
    obtain ⟨may, has, _, rule⟩ := origin record listed
    exact ⟨may, has, rule⟩
  case ordered => exact added.attachmentsOf_eq empty sound.once
  case parameters =>
    intro rule listed attaches scope
    exact ((assignAll_spares sound listed attaches scope).holds run).2

end Assignment

/-! ## Compilation -/

namespace Network

open Stage

/-- No stage of a resolution adds a record. -/
theorem unrecorded_durable {count : Nat} :
    Durable count fun network => network.Prepared count ∧ network.attachments = #[] where
  tolerant := by
    refine Frame.Tolerant.and prepared_durable.tolerant ⟨fun _ _ _ _ => id, fun _ _ _ _ => id,
      fun _ _ _ _ => id, fun _ _ _ _ => id, fun network kind className scope none => ?_,
      fun _ _ => id⟩
    unfold Network.enter
    split <;> exact none
  nodeCount _ holds := holds.1.nodeCount
  management network node name className inside holds :=
    ⟨prepared_durable.management network node name className inside holds.1, holds.2⟩
  member network member inside entered holds :=
    ⟨prepared_durable.member network member inside entered holds.1,
      (attachments_addMember member).trans holds.2⟩

/-- The search for segments adds no record. -/
theorem attachments_of_addAll {config : Config} {before after : Network}
    (run : (Segments.addAll config).outcome before = (.ok (), after)) :
    after.attachments = before.attachments := by
  let kept : Frame :=
    { holds before after := after.attachments = before.attachments
      refl _ := rfl
      trans first second := second.trans first }
  have search : Within kept (Segments.addAll config) := by
    refine within_forM fun layer _ => Segments.addLayer_within (fun _ _ => rfl) (fun _ _ => rfl)
      (fun network id definition => ?_) layer
    unfold Segments.applyClass
    dsimp only
    split
    · exact kept.refl network
    · unfold Network.enter
      split <;> rfl
  exact search.holds run

end Network

namespace Compiler

open Network Stage

variable {compiler : Compiler} {files : TextFiles} {topology : Topology} {network : Network}

/-- There are no records before parameters are assigned. -/
theorem unattached_of_reached (reached : compiler.Reached files topology .addressed network) :
    Assignment.Unattached network := by
  refine Assignment.unattached_of_wellFormed (intact_of_reached reached).wellFormed ?_
  cases reached with
  | addressed reached addresses =>
    cases reached with
    | searched reached search =>
      cases reached with
      | resolved reached resolution =>
        cases reached with
        | built made =>
          have resolved := unrecorded_durable.of_resolve resolution
            ⟨(assembled_of_ofTopology made).toPrepared, (plain_of_ofTopology made).attachments⟩
          have same := (Addressing.assignAll_within untouched_valueless _).holds addresses
          refine Array.eq_empty_of_size_eq_zero ?_
          rw [same.1.2.size, attachments_of_addAll search, resolved.2]
          rfl

/-- Extensions add no records. -/
theorem attachments_giveParameters (compiler : Compiler) (network : Network) :
    (compiler.giveParameters network).attachments = network.attachments := by
  let steady (current : Network) : Prop := current.attachments = network.attachments
  refine List.foldlRecOn (motive := steady) compiler.extensions _ rfl fun _ same extension _ => ?_
  cases extension with
  | builtin => exact same
  | containerlab => exact same

end Compiler

namespace Plan

open Network

/-- What a plan shows of an attachment. -/
def recordOf (attachment : Attachment) : PlanRecord :=
  ⟨attachment.rule, attachment.index, attachment.parameters.own⟩

/-- The objects of a plan are those of a network, each with its attachments. -/
def ListsRecords (plan : Plan) (config : Config) (network : Network) : Prop :=
  ∃ order : List Scope, order.Perm network.scopes ∧
    List.Forall₂ (fun scope object => object.kind = scope.kind ∧
      object.name = nameOf config network scope ∧
        object.records = (network.attachmentsOf scope).map recordOf) order plan.objects

/-- The view of an attachment are its own parameters. -/
theorem recordsOf_of_store {network viewed : Network}
    (stored : viewed.attachments = network.attachments.map View.showAttachment) (scope : Scope) :
    recordsOf viewed scope = (network.attachmentsOf scope).map recordOf := by
  unfold recordsOf attachmentsOf
  rw [stored, Array.toList_map, List.filter_map, List.map_map]
  rfl

end Plan

namespace Assignment

open Network Stage

variable {config : Config}

/-- What a configuration attaches: in every assignment to a well-formed network without records,
and in every compilation. -/
structure RecordsAttached (config : Config) (files : TextFiles) : Prop where
  assigned : ∀ generators network after, network.WellFormed → network.attachments = #[] →
    (assignAll config files generators).outcome network = (.ok (), after) →
      Attached config files generators network after
  /-- The objects of a plan list the records that the assignment of the compilation attaches. -/
  compiled : ∀ topology plan, Plan.compile config files topology = .ok plan →
    ∃ compiler network after, Compiler.ofConfig config = .ok compiler ∧
      compiler.Reached files topology .addressed network ∧
      (assignAll compiler.config files compiler.generators).outcome network = (.ok (), after) ∧
      Attached compiler.config files compiler.generators network after ∧
      plan.ListsRecords config after

/-- An attach rule gives one record for each of its rows to every object that requests it, and
nothing else, and plans list the records of objects in the order of the rules and the rows. -/
theorem recordsAttached (valid : config.validate = .ok ()) (files : TextFiles) :
    RecordsAttached config files where
  assigned _ _ _ wellFormed none run :=
    attached_of_unattached (soundRules_of_validate valid)
      (unattached_of_wellFormed wellFormed none) run
  compiled topology plan run := by
    obtain ⟨compiler, extended, order, viewed, made, reached, views, perm, shown⟩ :=
      Plan.exists_of_compile run
    obtain ⟨nodeClasses, same⟩ := Compiler.exists_nodeClasses_of_ofConfig made
    have sound : SoundRules config.rules := soundRules_of_validate valid
    cases reached with
    | @extended after reached =>
      cases reached with
      | @assigned network _ reached assignment =>
        have unattached := Compiler.unattached_of_reached reached
        refine ⟨compiler, network, after, made, reached, assignment, ?_, order, ?_, ?_⟩
        · exact attached_of_unattached (by rw [same]; exact sound) unattached assignment
        · have titles := compiler.giveParameters_holds sameTitles_valueless after
          rw [← titles.references.scopes]
          exact perm
        · have titles := sameTitles.trans (compiler.giveParameters_holds sameTitles_valueless after)
            ((View.build_within sameTitles_valueless).holds views)
          obtain ⟨_, _, _, rfl⟩ := View.build_eq_ok views
          refine shown.imp fun scope object shows => ⟨shows.kind, ?_, ?_⟩
          · exact shows.name.trans (Plan.nameOf_congr (by rw [same]) titles scope)
          · rw [shows.records, Plan.recordsOf_of_store (View.attachments_store _ _)]
            unfold attachmentsOf
            rw [Compiler.attachments_giveParameters]

end Assignment

namespace Ledger

/-- A rule with two rows and a derived field. -/
def entry : ParameterRule where
  name := "entry"
  source := some { kind := .range, start := 7, stop := 8 }
  formats := Table.setAll {} [("text", "no \x7b\x7bvalue\x7d\x7d")]

/-- A rule whose generator counts. -/
def total : ParameterRule where
  name := "total"
  generator := some "ledger.count"

/-- Interfaces request one of two rules, and nodes request both. -/
def config : Config where
  name := "ledger"
  rules := [entry, total]
  nodeClasses := [{ name := "book", params := ["total", "entry"] }]
  interfaceClasses := [{ name := "page", params := ["entry"] }]

/-- The rows of the generator: one with the number of records that there are. -/
def generators : Generators :=
  Table.setAll {}
    [("ledger.count", fun _ network _ =>
      .ok [Row.single (Numeral.text network.attachments.size) 0])]

/-- Two linked nodes of which one requests the rules. -/
def topology : Topology where
  nodes := [{ name := "a" }, { name := "b", labels := ["book"] }]
  edges := [{ source := "a", target := "b", sourceLabels := ["page"] }]

/-- The compiler of the configuration. -/
def compiler : Compiler where
  config := config
  extensions := [.builtin]
  generators := generators
  extra := {}

/-- The network before the assignment of parameters. -/
def addressed : Network := compiler.addressed topology

/-- The network with its parameters and records. -/
def assigned : Network := compiler.assigned .none topology

/-- What is written of the records of an object: the rule, the index and fields. -/
def written (owner : Scope) : List (String × Nat × Option String × Option String) :=
  (assigned.attachmentsOf owner).map fun attachment =>
    (attachment.rule, attachment.index, attachment.parameters.get? "value",
      attachment.parameters.get? "text")

/-- The generator sees the records of the rule before its own, and no others. -/
theorem recordsAttached_of_book :
    config.validate = .ok () ∧ Assignment.RecordsAttached config .none ∧ addressed.WellFormed ∧
      addressed.attachments = #[] ∧
      (Assignment.assignAll config .none generators).outcome addressed = (.ok (), assigned) ∧
      Assignment.Attached config .none generators addressed assigned ∧
      written (.node 1) =
        [("entry", 0, some "7", some "no 7"), ("entry", 1, some "8", some "no 8"),
          ("total", 0, some "4", none)] ∧
      written (.interface 0) =
        [("entry", 0, some "7", some "no 7"), ("entry", 1, some "8", some "no 8")] ∧
      written (.interface 1) = [] := by
  have valid : config.validate = .ok () := by decide +kernel
  have succeeds : compiler.Succeeds .none topology := by constructor <;> decide +kernel
  have reached := succeeds.reached_addressed
  have wellFormed := (Compiler.intact_of_reached reached).wellFormed
  have none : addressed.attachments = #[] := (Compiler.unattached_of_reached reached).attachments
  have run : (Assignment.assignAll config .none generators).outcome addressed =
      (.ok (), assigned) := Stage.outcome_eq_ok succeeds.assignment
  have attached := Assignment.recordsAttached valid .none
  exact ⟨valid, attached, wellFormed, none, run, attached.assigned generators addressed assigned
    wellFormed none run, by decide +kernel, by decide +kernel, by decide +kernel⟩

end Ledger

end TopoPlan
