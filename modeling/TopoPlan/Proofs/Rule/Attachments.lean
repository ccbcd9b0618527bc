import TopoPlan.Proofs.Rule.SharedValues

/-!
# Attachments of objects

Records are only ever added, each to the list of all and to that of its owner.  A network with
records is therefore the one without them and a list of additions, and what it was at an
earlier time can be read off it: `upTo_foldl_addAttachment`.
-/

namespace TopoPlan

/-- The objects that may have attachments. -/
def Scope.MayOwn : Scope → Prop
  | .node _ | .interface _ | .connection _ | .group _ | .segment _ => True
  | .network | .neighbor _ | .member _ => False

namespace Network

/-- The attachments of an object, in the order in which they were added. -/
def attachmentsOf (network : Network) (owner : Scope) : List Attachment :=
  network.attachments.toList.filter fun attachment => attachment.owner = owner

/-- The attachments that an object has by a rule. -/
def attachmentsBy (network : Network) (rule : String) (owner : Scope) : List Attachment :=
  (network.attachmentsOf owner).filter fun attachment => attachment.rule = rule

/-- The network as it was when it had so many attachments. -/
def upTo (network : Network) (count : Nat) : Network :=
  { network with
    nodes := network.nodes.map fun node =>
      { node with attachments := node.attachments.filter (· < count) }
    interfaces := network.interfaces.map fun interface =>
      { interface with attachments := interface.attachments.filter (· < count) }
    connections := network.connections.map fun connection =>
      { connection with attachments := connection.attachments.filter (· < count) }
    groups := network.groups.map fun group =>
      { group with attachments := group.attachments.filter (· < count) }
    segments := network.segments.map fun segment =>
      { segment with attachments := segment.attachments.filter (· < count) }
    attachments := network.attachments.take count }

/-- Objects list the attachments that they own, in the order in which they were added. -/
def Entered (network : Network) : Prop :=
  ∀ scope, network.attachmentsAt scope = (List.range network.attachments.size).filter
    fun id => (network.attachment id).owner = scope

section Additions

variable {network : Network} {added : Attachment} {additions : List Attachment} {count : Nat}

/-! ## One addition -/

/-- What is added later does not change what the network was. -/
theorem upTo_addAttachment (earlier : count ≤ network.attachments.size) (added : Attachment) :
    (network.addAttachment added).upTo count = network.upTo count := by
  have new (ids : List AttachmentId) :
      (ids ++ [network.attachments.size]).filter (· < count) = ids.filter (· < count) := by
    rw [List.filter_append, List.filter_singleton, decide_eq_false (Nat.not_lt.mpr earlier),
      cond_false, List.append_nil]
  have taken : (network.attachments.push added).take count = network.attachments.take count := by
    simp only [Array.take_eq_extract, Array.extract_push_of_le earlier]
  unfold addAttachment upTo
  dsimp only
  split <;>
    simp only [updateNode, updateInterface, updateConnection, updateGroup, updateSegment, taken] <;>
    rw [map_modify_of_eq fun _ => by simp only [new]]

/-- A new attachment comes last in the list of its owner. -/
theorem Entered.addAttachment (entered : network.Entered) (has : network.Has added.owner)
    (owner : added.owner ∈ Attaching.owners network) :
    (network.addAttachment added).Entered := by
  intro scope
  have attachment (id : AttachmentId) : (network.addAttachment added).attachment id =
      if id = network.attachments.size then added else network.attachment id := by
    rw [Network.attachment, attachments_addAttachment, getD_push]
    rfl
  have before : (List.range network.attachments.size).filter
      (fun id => ((network.addAttachment added).attachment id).owner = scope) =
        network.attachmentsAt scope := by
    rw [entered scope]
    refine List.filter_congr fun id listed => ?_
    rw [attachment, if_neg (Nat.ne_of_lt (List.mem_range.mp listed))]
  rw [attachmentsAt_addAttachment has owner, attachments_addAttachment, Array.size_push,
    List.range_succ, List.filter_append, before, List.filter_singleton, attachment, if_pos rfl]
  by_cases same : added.owner = scope
  · simp [same]
  · simp [same, Ne.symm same]

/-! ## Several additions -/

/-- Attachments leave the references as they are. -/
theorem sameReferences_foldl_addAttachment (network : Network) (additions : List Attachment) :
    SameReferences network (additions.foldl addAttachment network) := by
  refine List.foldlRecOn (motive := SameReferences network) additions _ (.refl network) ?_
  exact fun current same added _ => same.trans (sameReferences_addAttachment current added)

/-- Attachments are appended in the order in which they are given. -/
theorem attachments_foldl_addAttachment (network : Network) (additions : List Attachment) :
    (additions.foldl addAttachment network).attachments.toList =
      network.attachments.toList ++ additions := by
  induction additions generalizing network with
  | nil => exact (List.append_nil _).symm
  | cons added rest inductionHypothesis =>
    rw [List.foldl_cons, inductionHypothesis, attachments_addAttachment, Array.toList_push,
      List.append_assoc, List.singleton_append]

/-- Attachments leave the parameters of every scope as they are. -/
theorem parametersOf_foldl_addAttachment (network : Network) (additions : List Attachment)
    (scope : Scope) :
    (additions.foldl addAttachment network).parametersOf scope = network.parametersOf scope := by
  induction additions generalizing network with
  | nil => rfl
  | cons added rest inductionHypothesis =>
    rw [List.foldl_cons, inductionHypothesis, parametersOf_addAttachment]

/-- What is added later does not change what the network was. -/
theorem upTo_foldl_addAttachment (earlier : count ≤ network.attachments.size)
    (additions : List Attachment) :
    (additions.foldl addAttachment network).upTo count = network.upTo count := by
  induction additions generalizing network with
  | nil => rfl
  | cons added rest inductionHypothesis =>
    have still : count ≤ (network.addAttachment added).attachments.size := by
      rw [attachments_addAttachment, Array.size_push]
      exact Nat.le_succ_of_le earlier
    rw [List.foldl_cons, inductionHypothesis still, upTo_addAttachment earlier]

/-- New attachments come last in the lists of their owners, in their order. -/
theorem Entered.addAttachments (entered : network.Entered)
    (owned : ∀ added ∈ additions,
      network.Has added.owner ∧ added.owner ∈ Attaching.owners network) :
    (additions.foldl Network.addAttachment network).Entered := by
  induction additions generalizing network with
  | nil => exact entered
  | cons added rest inductionHypothesis =>
    obtain ⟨⟨has, owner⟩, others⟩ := List.forall_mem_cons.mp owned
    have same := sameReferences_addAttachment network added
    refine inductionHypothesis (entered.addAttachment has owner) fun other listed => ?_
    rw [same.owners, has_congr same.bulk]
    exact others other listed

/-- Entries that list attachments, all of them earlier. -/
theorem map_of_earlier {α : Type} {entries : Array α} {change : α → α}
    (list : α → List AttachmentId) (absent : α)
    (keeps : ∀ entry, (∀ id ∈ list entry, id < count) → change entry = entry)
    (earlier : ∀ position, ∀ id ∈ list (entries.getD position absent), id < count) :
    entries.map change = entries := by
  refine Array.ext (by simp) fun index _ inside => ?_
  rw [Array.getElem_map]
  refine keeps _ fun id listed => earlier index id ?_
  rw [Array.getD_eq_getD_getElem?, Array.getElem?_eq_getElem inside]
  exact listed

/-- The network is what it is with the attachments that it has. -/
theorem Entered.upTo_size (entered : network.Entered) :
    network.upTo network.attachments.size = network := by
  have earlier (scope : Scope) : ∀ id ∈ network.attachmentsAt scope,
      id < network.attachments.size := by
    intro id listed
    rw [entered scope] at listed
    exact List.mem_range.mp (List.mem_filter.mp listed).1
  have filtered {ids : List AttachmentId} (earlier : ∀ id ∈ ids, id < network.attachments.size) :
      ids.filter (· < network.attachments.size) = ids :=
    List.filter_eq_self.mpr fun id listed => decide_eq_true (earlier id listed)
  unfold upTo
  rw [map_of_earlier Node.attachments default (fun _ known => by rw [filtered known])
      fun id => earlier (.node id),
    map_of_earlier Interface.attachments default (fun _ known => by rw [filtered known])
      fun id => earlier (.interface id),
    map_of_earlier Connection.attachments default (fun _ known => by rw [filtered known])
      fun id => earlier (.connection id),
    map_of_earlier Group.attachments default (fun _ known => by rw [filtered known])
      fun id => earlier (.group id),
    map_of_earlier Segment.attachments default (fun _ known => by rw [filtered known])
      fun id => earlier (.segment id),
    Array.take_eq_extract, Array.extract_size]

end Additions

end Network

namespace Source

/-- Every rule with a source has its rows in the table of all. -/
theorem getElem?_allRows {config : Config} {files : TextFiles} {found : Table (List Row)}
    (once : (config.rules.map (·.name)).Nodup) (run : allRows config files = .ok found)
    {rule : ParameterRule} (listed : rule ∈ config.rules) {source : ValueSource}
    (has : rule.source = some source) :
    ∃ rows, ruleRows config files rule source = .ok rows ∧ found[rule.name]? = some rows := by
  let motive (done : List ParameterRule) (current : Table (List Row)) : Prop :=
    ∀ rule ∈ done, ∀ source, rule.source = some source →
      ∃ rows, ruleRows config files rule source = .ok rows ∧ current[rule.name]? = some rows
  refine Outcome.foldlM_induction (motive := motive) run (List.forall_mem_nil _) ?_ rule listed
    source has
  intro done last current next start holds step rule listed source has
  have names := once.sublist (start.sublist.map _)
  rw [List.map_append] at names
  have fresh : last.name ∉ done.map (·.name) := fun listed =>
    (List.nodup_append.mp names).2.2 _ listed _ (List.mem_singleton_self _) rfl
  have earlier (known : rule ∈ done) (other : last.name ≠ rule.name → next[rule.name]? =
      current[rule.name]?) : ∃ rows, ruleRows config files rule source = .ok rows ∧
        next[rule.name]? = some rows := by
    obtain ⟨rows, made, look⟩ := holds rule known source has
    refine ⟨rows, made, (other fun same => fresh ?_).trans look⟩
    exact same ▸ List.mem_map_of_mem known
  cases own : last.source with
  | none =>
    rw [own] at step
    cases step
    rcases List.mem_append.mp listed with known | new
    · exact earlier known fun _ => rfl
    · rw [List.mem_singleton.mp new, own] at has
      cases has
  | some given =>
    rw [own] at step
    obtain ⟨rows, made, step⟩ := Outcome.bind_eq_ok.mp step
    cases step
    rcases List.mem_append.mp listed with known | new
    · refine earlier known fun different => ?_
      rw [Table.getElem?_insert, if_neg different]
    · obtain rfl := List.mem_singleton.mp new
      cases own.symm.trans has
      exact ⟨rows, made, by rw [Table.getElem?_insert, if_pos rfl]⟩

end Source

namespace Attaching

open Network Stage

/-- The records of an object by a rule, one for each row. -/
def records (rule : String) (owner : Scope) (rows : List Row) : List Attachment :=
  rows.zipIdx.map fun entry => { rule, owner, index := entry.2, parameters := { own := entry.1 } }

/-- The records that a rule gives to objects with their rows. -/
def given (rule : String) (entries : List (Scope × List Row)) : List Attachment :=
  entries.flatMap fun entry => records rule entry.1 entry.2

variable {config : Config} {generators : Generators} {sourceRows : Table (List Row)}
  {network after : Network} {rule : ParameterRule} {rules : List ParameterRule}

/-- A record for an owner names the owner and the rule. -/
theorem of_mem_records {name : String} {owner : Scope} {rows : List Row} {added : Attachment}
    (listed : added ∈ records name owner rows) : added.rule = name ∧ added.owner = owner := by
  obtain ⟨entry, _, rfl⟩ := List.mem_map.mp listed
  exact ⟨rfl, rfl⟩

/-- Given records name the rule and one of the owners. -/
theorem of_mem_given {name : String} {entries : List (Scope × List Row)} {added : Attachment}
    (listed : added ∈ given name entries) :
    added.rule = name ∧ added.owner ∈ entries.map Prod.fst := by
  obtain ⟨entry, member, record⟩ := List.mem_flatMap.mp listed
  obtain ⟨same, owner⟩ := of_mem_records record
  exact ⟨same, owner ▸ List.mem_map_of_mem member⟩

/-- Of what a rule gives, an object owns the records of its own rows. -/
theorem filter_given {name : String} {entries : List (Scope × List Row)}
    (once : (entries.map Prod.fst).Nodup) {owner : Scope} {rows : List Row}
    (listed : (owner, rows) ∈ entries) :
    (given name entries).filter (fun added => added.owner = owner) = records name owner rows := by
  induction entries with
  | nil => cases listed
  | cons first rest inductionHypothesis =>
    obtain ⟨fresh, others⟩ := List.nodup_cons.mp once
    unfold given at inductionHypothesis ⊢
    rw [List.flatMap_cons, List.filter_append]
    rcases List.mem_cons.mp listed with rfl | later
    · rw [List.filter_eq_self.mpr fun added known => decide_eq_true (of_mem_records known).2,
        List.filter_eq_nil_iff.mpr, List.append_nil]
      intro added known same
      exact fresh (of_decide_eq_true same ▸ (of_mem_given known).2)
    · rw [inductionHypothesis others later, List.filter_eq_nil_iff.mpr, List.nil_append]
      intro added known same
      refine fresh ?_
      rw [← (of_mem_records known).2, of_decide_eq_true same]
      exact List.mem_map_of_mem later

/-- The objects that may have records. -/
theorem mem_owners
    (listed : ListedOnce network.interfaces.size (fun id => (network.interface id).node)
      fun id => (network.node id).interfaces) {owner : Scope} :
    owner ∈ owners network ↔ owner.MayOwn ∧ network.Has owner := by
  constructor
  · intro member
    refine ⟨?_, has_of_mem_owners (fun _ _ known => (listed.mem_iff.mp known).1) member⟩
    cases owner with
    | network | neighbor | member => simp [owners] at member
    | _ => trivial
  · rintro ⟨may, has⟩
    simp only [owners, List.mem_append, List.mem_map, List.mem_flatMap, nodeIds, connectionIds,
      groupIds, segmentIds, List.mem_range]
    cases owner with
    | node id => exact .inl (.inl (.inl (.inl ⟨id, has, rfl⟩)))
    | interface id =>
      have known := listed.mem_iff.mpr ⟨has, rfl⟩
      exact .inl (.inl (.inl (.inr ⟨_, lt_size_of_mem Node.interfaces known rfl, id, known, rfl⟩)))
    | connection id => exact .inl (.inl (.inr ⟨id, has, rfl⟩))
    | group id => exact .inl (.inr ⟨id, has, rfl⟩)
    | segment id => exact .inr ⟨id, has, rfl⟩
    | network | neighbor | member => cases may

/-- No object is among them twice. -/
theorem nodup_owners
    (listed : ListedOnce network.interfaces.size (fun id => (network.interface id).node)
      fun id => (network.node id).interfaces) : (owners network).Nodup := by
  have ports : (network.nodeIds.flatMap fun id => (network.node id).interfaces).Nodup :=
    (ports_perm listed).nodup_iff.mpr List.nodup_range
  have counted {kind : Nat → Scope} (injective : Function.Injective kind) (size : Nat) :
      ((List.range size).map kind).Nodup := List.nodup_range.map injective
  simp only [owners, ← List.map_flatMap]
  refine ((((counted (fun _ _ => Scope.node.inj) _).append
    (ports.map fun _ _ => Scope.interface.inj) ?_).append
    (counted (fun _ _ => Scope.connection.inj) _) ?_).append
    (counted (fun _ _ => Scope.group.inj) _) ?_).append
    (counted (fun _ _ => Scope.segment.inj) _) ?_
  -- Lists of objects of different kinds have nothing in common.
  all_goals
    intro owner earlier last
    obtain ⟨id, _, rfl⟩ := List.mem_map.mp last
    simp at earlier

/-- The objects that request a rule and may have records. -/
def requesting (network : Network) (name : String) : List Scope :=
  (owners network).filter fun owner => (network.parametersOf owner).hasFlag name

/-- Attachments leave the requests as they are. -/
theorem requesting_foldl_addAttachment (network : Network) (additions : List Attachment)
    (name : String) :
    requesting (additions.foldl addAttachment network) name = requesting network name := by
  unfold requesting
  rw [(sameReferences_foldl_addAttachment network additions).owners]
  simp only [parametersOf_foldl_addAttachment]

/-- One rule adds the records of the objects that request it. -/
theorem attachRule_eq_ok
    (run : (attachRule config generators sourceRows rule).outcome network = (.ok (), after)) :
    ∃ entries : List (Scope × List Row), entries.map Prod.fst = requesting network rule.name ∧
      (∀ entry ∈ entries,
        rowsFor config generators sourceRows network rule entry.1 = .ok entry.2) ∧
      after = (given rule.name entries).foldl addAttachment network := by
  rw [attachRule, outcome_get_bind] at run
  obtain ⟨entries, found, run⟩ := outcome_ofExcept_bind_eq_ok.mp run
  obtain ⟨asked, each⟩ := Outcome.mapM_pair_eq_ok found
  refine ⟨entries, asked, each, ?_⟩
  rw [outcome_set_eq_ok.mp run, given, List.foldl_flatMap]
  simp only [attach, records, List.foldl_map]

/-- Additions by some rules, to objects that may have records. -/
structure AddedBy (rules : List ParameterRule) (network : Network)
    (additions : List Attachment) : Prop where
  named : ∀ added ∈ additions, added.rule ∈ rules.map (·.name)
  requested : ∀ added ∈ additions, added.owner ∈ requesting network added.rule
  /-- Rules give their records one after the other. -/
  ordered : (rules.map (·.name)).Nodup →
    additions = rules.flatMap fun rule => additions.filter fun added => added.rule = rule.name

/-- Rules add records. -/
theorem attachRules_eq_ok
    (run : (rules.forM (attachRule config generators sourceRows)).outcome network =
      (.ok (), after)) :
    ∃ additions, AddedBy rules network additions ∧
      after = additions.foldl addAttachment network := by
  induction rules generalizing network with
  | nil =>
    cases run
    exact ⟨[], ⟨List.forall_mem_nil _, List.forall_mem_nil _, fun _ => rfl⟩, rfl⟩
  | cons rule rest inductionHypothesis =>
    obtain ⟨middle, turn, run⟩ := outcome_forM_cons_eq_ok.mp run
    obtain ⟨entries, asked, _, rfl⟩ := attachRule_eq_ok turn
    obtain ⟨more, added, rfl⟩ := inductionHypothesis run
    have first : ∀ record ∈ given rule.name entries, record.rule = rule.name ∧
        record.owner ∈ requesting network rule.name := by
      intro record listed
      obtain ⟨same, owner⟩ := of_mem_given listed
      exact ⟨same, asked ▸ owner⟩
    refine ⟨given rule.name entries ++ more, ⟨?named, ?requested, fun once => ?ordered⟩,
      List.foldl_append.symm⟩
    case named =>
      intro record listed
      rw [List.map_cons, List.mem_cons]
      rcases List.mem_append.mp listed with here | later
      · exact .inl (first record here).1
      · exact .inr (added.named record later)
    case requested =>
      intro record listed
      rcases List.mem_append.mp listed with here | later
      · obtain ⟨same, owner⟩ := first record here
        exact same.symm ▸ owner
      · rw [← requesting_foldl_addAttachment network (given rule.name entries)]
        exact added.requested record later
    case ordered =>
      obtain ⟨fresh, others⟩ := List.nodup_cons.mp once
      have own : (given rule.name entries ++ more).filter (fun record => record.rule = rule.name) =
          given rule.name entries := by
        rw [List.filter_append,
          List.filter_eq_self.mpr fun record here => decide_eq_true (first record here).1,
          List.filter_eq_nil_iff.mpr, List.append_nil]
        intro record later same
        have known := added.named record later
        rw [of_decide_eq_true same] at known
        exact fresh known
      have later : rest.flatMap (fun other =>
          (given rule.name entries ++ more).filter fun record => record.rule = other.name) =
            more := by
        refine Eq.trans (List.flatMap_congr fun other listed => ?_) (added.ordered others).symm
        rw [List.filter_append, List.filter_eq_nil_iff.mpr, List.nil_append]
        intro record here same
        have equal : rule.name = other.name := (first record here).1.symm.trans
          (of_decide_eq_true same)
        exact fresh (List.mem_map.mpr ⟨other, listed, equal.symm⟩)
      rw [List.flatMap_cons, own, later]

end Attaching

end TopoPlan
