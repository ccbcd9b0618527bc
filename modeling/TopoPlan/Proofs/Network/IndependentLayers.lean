import TopoPlan.Proofs.Network.Readdressing

/-!
# Layers in either order

The assignment of one layer reads and writes parameters that those of the other layers
leave alone, and segments of its own layer.  So two assignments of different layers can be
exchanged, failures included: `assignSegments_comm` is the main statement.
-/

namespace TopoPlan

/-! ## Writes that can be exchanged -/

section Exchange

variable {State Left Right : Type} {left : State → Left → State} {right : State → Right → State}

/-- A step can be made before or after a fold when it can be exchanged with its steps. -/
theorem foldl_step_comm {entry : Left} {entries : List Right}
    (comm : ∀ other ∈ entries, ∀ state,
      right (left state entry) other = left (right state other) entry) (start : State) :
    entries.foldl right (left start entry) = left (entries.foldl right start) entry := by
  induction entries generalizing start with
  | nil => rfl
  | cons other rest inductionHypothesis =>
    obtain ⟨first, others⟩ := List.forall_mem_cons.mp comm
    rw [List.foldl_cons, first, inductionHypothesis others]
    rfl

/-- Two folds can be exchanged when their steps can. -/
theorem foldl_foldl_comm {entries : List Left} {more : List Right}
    (comm : ∀ entry ∈ entries, ∀ other ∈ more, ∀ state,
      right (left state entry) other = left (right state other) entry) (start : State) :
    more.foldl right (entries.foldl left start) = entries.foldl left (more.foldl right start) := by
  induction entries generalizing start with
  | nil => rfl
  | cons entry rest inductionHypothesis =>
    obtain ⟨first, others⟩ := List.forall_mem_cons.mp comm
    rw [List.foldl_cons, inductionHypothesis others, foldl_step_comm first]
    rfl

end Exchange

/-- Changes of two entries can be exchanged, and so can changes of one entry that do not
disturb each other. -/
theorem modify_comm {α : Type} (entries : Array α) {position other : Nat} {change more : α → α}
    (comm : position = other → ∀ entry, more (change entry) = change (more entry)) :
    (entries.modify position change).modify other more =
      (entries.modify other more).modify position change := by
  ext index inside below
  · simp only [Array.size_modify]
  · simp only [Array.getElem_modify]
    by_cases here : position = index <;> by_cases there : other = index <;>
      simp only [here, there, if_true, if_false]
    exact comm (here.trans there.symm) _

/-- Many changes before or after many others. -/
theorem foldl_modify_comm {α Entry Other : Type} (key : Entry → Nat) (change : Entry → α → α)
    (otherKey : Other → Nat) (more : Other → α → α) {entries : List Entry} {others : List Other}
    (comm : ∀ entry ∈ entries, ∀ other ∈ others, key entry = otherKey other →
      ∀ value, more other (change entry value) = change entry (more other value))
    (array : Array α) :
    others.foldl (fun current other => current.modify (otherKey other) (more other))
        (entries.foldl (fun current entry => current.modify (key entry) (change entry)) array) =
      entries.foldl (fun current entry => current.modify (key entry) (change entry))
        (others.foldl (fun current other => current.modify (otherKey other) (more other)) array) :=
  foldl_foldl_comm (fun entry listed other otherListed current =>
    modify_comm current (comm entry listed other otherListed)) array

namespace Table

variable {α : Type} (table : Table α) {name other : String}

/-- Entries with different names are inserted in either order. -/
theorem insert_comm (different : name ≠ other) (value otherValue : α) :
    (table.insert name value).insert other otherValue =
      (table.insert other otherValue).insert name value := by
  ext key : 1
  simp only [getElem?_insert]
  by_cases here : name = key <;> by_cases there : other = key <;>
    simp only [here, there, if_true, if_false]
  exact absurd (here.trans there.symm) different

/-- Entries with different names are inserted in either order, if they are new. -/
theorem insertIfNew_comm (different : name ≠ other) (value otherValue : α) :
    (table.insertIfNew name value).insertIfNew other otherValue =
      (table.insertIfNew other otherValue).insertIfNew name value := by
  ext key : 1
  simp only [Std.ExtTreeMap.getElem?_insertIfNew, Std.ExtTreeMap.mem_insertIfNew,
    Std.LawfulEqCmp.compare_eq_iff_eq]
  by_cases here : name = key <;> by_cases there : other = key <;>
    simp [here, there, different, Ne.symm different]
  exact absurd (here.trans there.symm) different

/-- Entries of different names can be set in either order. -/
theorem setAll_comm {entries more : List (String × α)}
    (apart : (entries.map Prod.fst).Disjoint (more.map Prod.fst)) :
    (table.setAll entries).setAll more = (table.setAll more).setAll entries := by
  refine foldl_foldl_comm (fun entry listed other otherListed current => ?_) table
  refine insert_comm current (fun same => ?_) entry.2 other.2
  exact apart (List.mem_map_of_mem listed) (same ▸ List.mem_map_of_mem otherListed)

end Table

namespace Parameters

variable (parameters : Parameters)

/-- Parameters with different names are set in either order. -/
theorem setAll_comm {entries more : List (String × String)}
    (apart : (entries.map Prod.fst).Disjoint (more.map Prod.fst)) :
    (parameters.setAll entries).setAll more = (parameters.setAll more).setAll entries := by
  unfold setAll
  rw [Table.setAll_comm _ apart]

/-- Defaults with different names are set in either order. -/
theorem setIfAbsent_comm {key other : String} (different : key ≠ other)
    (value otherValue : String) :
    (parameters.setIfAbsent key value).setIfAbsent other otherValue =
      (parameters.setIfAbsent other otherValue).setIfAbsent key value := by
  unfold setIfAbsent
  rw [Table.insertIfNew_comm _ different]

end Parameters

/-! ## What plans read -/

namespace Network

/-- What the plans of a layer read is the same: its segments and parameters, and how
interfaces are described in failures. -/
structure SameReads (name : String) (before after : Network) : Prop extends
    SameIn name before after where
  described : ∀ id, after.describe (.interface id) = before.describe (.interface id)

end Network

namespace SegmentPlan

open Network

section Reads

variable {config : Config} {layer : Layer} {before after : Network}
  (same : SameReads layer.name before after) {id : SegmentId}

include same

/-- Whether addresses lie in a subnet does not depend on the values of the other layer. -/
theorem checkInside_congr (segment : Segment) (subnet : Subnet) :
    checkInside after segment subnet = checkInside before segment subnet := by
  unfold checkInside
  simp only [same.described]

/-- The implied subnet does not depend on the values of the other layer. -/
theorem impliedSubnet_congr (segment : Segment) (length : Nat)
    (reserved : List (InterfaceId × Address)) :
    impliedSubnet after segment length reserved = impliedSubnet before segment length reserved := by
  unfold impliedSubnet
  simp only [same.described]

/-- The explicit subnet does not depend on the values of the other layer. -/
theorem explicitSubnet_congr (segment : Segment) (policy : Option String) (explicit : Explicit)
    (given : Option Subnet) :
    explicitSubnet after config segment policy explicit given =
      explicitSubnet before config segment policy explicit given := by
  unfold explicitSubnet
  simp only [checkInside_congr same, impliedSubnet_congr same]

/-- The check of a binding does not depend on the values of the other layer. -/
theorem checkBounded_congr (policy : Option String) (explicit : Explicit)
    (subnet : Option Subnet) :
    checkBounded after layer policy explicit subnet =
      checkBounded before layer policy explicit subnet := by
  unfold checkBounded
  simp only [same.described]

/-- The subnet given at a connection does not depend on the values of the other layer. -/
theorem connectionSubnet_congr (segment : Segment) :
    connectionSubnet after layer segment = connectionSubnet before layer segment := by
  unfold connectionSubnet
  simp only [same.connection]

variable (listed : id ∈ before.segmentsIn layer.name)

include listed

/-- The policy of an interface does not depend on the values of the other layer. -/
theorem policyOf_congr {port : InterfaceId} (member : port ∈ (before.segment id).interfaces) :
    policyOf after config layer port = policyOf before config layer port := by
  have given : (after.interface port).parameters.get? (addressKey layer.name) =
      (before.interface port).parameters.get? (addressKey layer.name) :=
    same.interface id listed port member _ List.mem_cons_self
  unfold policyOf
  simp only [same.standing.policies, same.described, Parameters.has_eq_isSome, given]

/-- The policy of a segment does not depend on the values of the other layer. -/
theorem segmentPolicy_congr :
    segmentPolicy after config layer (before.segment id) =
      segmentPolicy before config layer (before.segment id) := by
  refine Outcome.foldlM_congr (fun port member chosen => ?_) _
  rw [policyOf_congr same listed member]

/-- What a segment gives explicitly does not depend on the values of the other layer. -/
theorem readExplicit_congr :
    readExplicit after layer (before.segment id) =
      readExplicit before layer (before.segment id) := by
  refine Outcome.foldlM_congr (fun port member found => ?_) _
  rw [same.interface id listed port member _ List.mem_cons_self]

/-- The plan of a segment reads nothing else. -/
theorem ofSegment_congr : ofSegment after config layer id = ofSegment before config layer id := by
  unfold ofSegment
  simp only [same.segment id listed, segmentPolicy_congr same listed,
    connectionSubnet_congr same, readExplicit_congr same listed, explicitSubnet_congr same,
    checkBounded_congr same]

end Reads

end SegmentPlan

namespace Addressing

open Network Stage

/-- What a plan fails with does not depend on the network. -/
theorem assignPlan_fst_congr (layer : Layer) (plan : SegmentPlan) (before after : Network) :
    ((assignPlan layer plan).outcome after).1 = ((assignPlan layer plan).outcome before).1 := by
  unfold assignPlan
  cases plan.subnet with
  | none => rfl
  | some subnet =>
    dsimp only
    cases subnet.hosts? plan.waiting.length (plan.reserved.map (·.2)) <;> rfl

section Reads

variable {config : Config} {layer : Layer} {before after : Network}
  (same : SameReads layer.name before after)

include same

/-- The plans of a layer do not depend on the values of the other layer. -/
theorem plansOf_congr : plansOf after config layer = plansOf before config layer := by
  unfold plansOf
  simp only [same.standing.segmentsIn, same.standing.ports]
  exact Outcome.mapM_congr fun id listed =>
    SegmentPlan.ofSegment_congr same (List.mem_filter.mp listed).1

/-- The complete plans of a layer do not depend on the values of the other layer. -/
theorem completePlans_congr :
    completePlans after config layer = completePlans before config layer := by
  unfold completePlans
  rw [plansOf_congr same]

/-- What an assignment reads decides whether it succeeds, and what it fails with. -/
theorem assignSegments_fst_congr :
    ((assignSegments config layer).outcome after).1 =
      ((assignSegments config layer).outcome before).1 := by
  unfold assignSegments
  rw [outcome_get_bind, outcome_get_bind, completePlans_congr same]
  cases completePlans before config layer with
  | error error => rfl
  | ok plans => exact outcome_forM_fst_congr (fun plan _ => assignPlan_fst_congr layer plan) _ _

end Reads

/-! ## What assignments write -/

section Writes

variable {name other : String} {addresses moreAddresses : List (InterfaceId × Subnet × Address)}
  {links moreLinks : List (ConnectionId × Subnet)} {bounds moreBounds : List (SegmentId × Subnet)}

/-- Addresses in different layers can be written in either order. -/
theorem addressed_comm (different : name ≠ other) (entry more : InterfaceId × Subnet × Address)
    (interface : Interface) :
    addressed other more (addressed name entry interface) =
      addressed name entry (addressed other more interface) := by
  unfold addressed
  rw [Parameters.setAll_comm]
  exact addressKeys_disjoint different

/-- Subnets of connections in different layers can be written in either order. -/
theorem linked_comm (different : name ≠ other) (entry more : ConnectionId × Subnet)
    (connection : Connection) :
    linked other more (linked name entry connection) =
      linked name entry (linked other more connection) := by
  unfold linked
  rw [Parameters.setIfAbsent_comm _ (subnetKey_ne different)]

/-- What two assignments write to different segments in different layers can be written in
either order. -/
theorem written_comm (different : name ≠ other)
    (apart : ∀ entry ∈ bounds, ∀ more ∈ moreBounds, entry.1 ≠ more.1) (network : Network) :
    written other (written name network addresses links bounds) moreAddresses moreLinks
        moreBounds =
      written name (written other network moreAddresses moreLinks moreBounds) addresses links
        bounds := by
  unfold written
  rw [foldl_modify_comm Prod.fst (addressed name) Prod.fst (addressed other)
      fun entry _ more _ _ => addressed_comm different entry more,
    foldl_modify_comm Prod.fst (linked name) Prod.fst (linked other)
      fun entry _ more _ _ => linked_comm different entry more,
    foldl_modify_comm Prod.fst (bound name) Prod.fst (bound other)
      fun entry listed more moreListed same => absurd same (apart entry listed more moreListed)]

theorem described_written (network : Network) (id : InterfaceId) :
    (written name network addresses links bounds).describe (.interface id) =
      network.describe (.interface id) := by
  have key : ((written name network addresses links bounds).interface id).node =
        (network.interface id).node ∧
      ((written name network addresses links bounds).interface id).name =
        (network.interface id).name :=
    ⟨getD_foldl_modify_field Prod.fst (addressed name) network.interfaces (·.node)
        (fun _ _ => rfl) addresses default id,
      getD_foldl_modify_field Prod.fst (addressed name) network.interfaces (·.name)
        (fun _ _ => rfl) addresses default id⟩
  change "interface " ++ interfaceKey _ id = "interface " ++ interfaceKey _ id
  simp only [interfaceKey, key]
  rfl

end Writes

variable {config : Config} {left right : Layer} {network after : Network}

/-- An assignment leaves alone what assignments of other layers read. -/
theorem sameReads_of_assignSegments (valid : config.validate = .ok ())
    (member : right ∈ config.layers) (different : left.name ≠ right.name)
    (run : (assignSegments config right).outcome network = (.ok (), after)) :
    SameReads left.name network after := by
  refine ⟨sameIn_of_assignSegments valid member different run, fun id => ?_⟩
  obtain ⟨_, _, rfl, _⟩ := assignSegments_eq_ok run
  exact described_written network id

/-- A layer can be assigned after another one exactly when it can be at the start. -/
theorem exists_assignSegments_iff (valid : config.validate = .ok ())
    (member : right ∈ config.layers) (different : left.name ≠ right.name)
    (run : (assignSegments config right).outcome network = (.ok (), after)) :
    (∃ final, (assignSegments config left).outcome after = (.ok (), final)) ↔
      ∃ final, (assignSegments config left).outcome network = (.ok (), final) := by
  have results : ((assignSegments config left).outcome after).1 =
      ((assignSegments config left).outcome network).1 :=
    assignSegments_fst_congr (sameReads_of_assignSegments valid member different run)
  constructor
  · rintro ⟨final, assigned⟩
    rw [assigned] at results
    exact ⟨_, outcome_eq_ok results.symm⟩
  · rintro ⟨final, assigned⟩
    rw [assigned] at results
    exact ⟨_, outcome_eq_ok results⟩

/-- Assignments of two layers write the plans that both layers have at the start. -/
theorem exists_plans_of_both (valid : config.validate = .ok ()) (member : left ∈ config.layers)
    (different : left.name ≠ right.name) {middle : Network}
    (first : (assignSegments config left).outcome network = (.ok (), middle))
    (second : (assignSegments config right).outcome middle = (.ok (), after)) :
    ∃ plans others, completePlans network config left = .ok plans ∧
      completePlans network config right = .ok others ∧
      after = written right.name
        (written left.name network (plans.flatMap SegmentPlan.addresses)
          (plans.flatMap (SegmentPlan.links network)) (plans.flatMap SegmentPlan.bounds))
        (others.flatMap SegmentPlan.addresses) (others.flatMap (SegmentPlan.links network))
        (others.flatMap SegmentPlan.bounds) := by
  have reads := sameReads_of_assignSegments valid member different.symm first
  obtain ⟨plans, complete, wrote, _⟩ := assignSegments_eq_ok first
  obtain ⟨others, otherComplete, otherWrote, _⟩ := assignSegments_eq_ok second
  rw [completePlans_congr reads] at otherComplete
  refine ⟨plans, others, complete, otherComplete, ?_⟩
  rw [otherWrote, wrote, links_written]

/-- Assignments of two layers can be made in the other order. -/
theorem assignSegments_swap (valid : config.validate = .ok ()) (leftMember : left ∈ config.layers)
    (rightMember : right ∈ config.layers) (different : left.name ≠ right.name)
    (run : (assignSegments config left >>= fun _ => assignSegments config right).outcome network =
      (.ok (), after)) :
    (assignSegments config right >>= fun _ => assignSegments config left).outcome network =
      (.ok (), after) := by
  obtain ⟨_, middle, first, second⟩ := outcome_bind_eq_ok.mp run
  obtain ⟨between, early⟩ :=
    (exists_assignSegments_iff valid leftMember different.symm first).mp ⟨after, second⟩
  obtain ⟨final, late⟩ :=
    (exists_assignSegments_iff valid rightMember different early).mpr ⟨middle, first⟩
  obtain ⟨plans, others, complete, otherComplete, wrote⟩ :=
    exists_plans_of_both valid leftMember different first second
  obtain ⟨_, _, otherComplete', complete', wrote'⟩ :=
    exists_plans_of_both valid rightMember different.symm early late
  cases complete.symm.trans complete'
  cases otherComplete.symm.trans otherComplete'
  refine outcome_bind_eq_ok.mpr ⟨(), between, early, ?_⟩
  rw [late, wrote, wrote', written_comm different]
  intro entry listed more moreListed
  exact ne_of_mem_segmentsIn different
    (mem_segmentsIn_of_bounds valid leftMember complete listed)
    (mem_segmentsIn_of_bounds valid rightMember otherComplete moreListed)

/-- Two different layers can be assigned in either order: both orders succeed on the same
networks, and leave the same network. -/
theorem assignSegments_comm (valid : config.validate = .ok ()) (leftMember : left ∈ config.layers)
    (rightMember : right ∈ config.layers) (different : left ≠ right) (network after : Network) :
    (assignSegments config left >>= fun _ => assignSegments config right).outcome network =
        (.ok (), after) ↔
      (assignSegments config right >>= fun _ => assignSegments config left).outcome network =
        (.ok (), after) := by
  have names : left.name ≠ right.name := fun same =>
    different (Config.layer_eq_of_name valid leftMember rightMember same)
  exact ⟨assignSegments_swap valid leftMember rightMember names,
    assignSegments_swap valid rightMember leftMember names.symm⟩

end Addressing

namespace Annex

open Addressing Network

/-- A layer and its policy. -/
def lan : Layer where
  name := "lan"
  connectsByDefault := true
  policies := [{ name := "desks", range := "10.0.0.0/16", subnetLength := 24 }]

/-- A layer whose name is that of the subnets of the other one. -/
def shadow : Layer where
  name := "lan_net"
  connectsByDefault := true
  policies := [{ name := "shadows", range := "10.0.0.0/16", subnetLength := 28 }]

/-- Hosts take part in both layers. -/
def config : Config where
  name := "annex"
  layers := [lan, shadow]
  nodeClasses := [{ name := "host", interfacePolicies := ["desks", "shadows"] }]

/-- Two linked hosts, one of them with an address in the first layer. -/
def topology : Topology where
  nodes := [{ name := "a", labels := ["host"] }, { name := "b", labels := ["host"] }]
  edges := [{ source := "a", target := "b", sourceLabels := ["lan_addr=10.0.7.5"] }]

/-- The network of the topology. -/
def built : Network := (ofTopology config topology).toOption.getD {}

/-- The network after resolution. -/
def resolved : Network := ((resolve config {}).outcome built).2

/-- The network with its segments. -/
def searched : Network := ((Segments.addAll config).outcome resolved).2

/-- The network with the addresses of both layers. -/
def assigned : Network :=
  ((assignSegments config lan >>= fun _ => assignSegments config shadow).outcome searched).2

/-- Both layers are assigned in either order, and each interface has an address in each. -/
theorem assignSegments_comm_of_hosts :
    config.validate = .ok () ∧ Searched config searched ∧ lan ≠ shadow ∧
      (assignSegments config lan >>= fun _ => assignSegments config shadow).outcome searched =
        (.ok (), assigned) ∧
      (assignSegments config shadow >>= fun _ => assignSegments config lan).outcome searched =
        (.ok (), assigned) ∧
      [0, 1].map (assigned.givenAddress? lan) = [some "10.0.7.5", some "10.0.7.1"] ∧
      [0, 1].map (assigned.givenAddress? shadow) = [some "10.0.0.1", some "10.0.0.2"] := by
  have valid : config.validate = .ok () := by decide +kernel
  have found : Searched config searched :=
    ⟨topology, {}, built, resolved, Outcome.eq_ok_of_isOk {} (by decide +kernel),
      Stage.outcome_eq_ok (by decide +kernel), Stage.outcome_eq_ok (by decide +kernel)⟩
  have different : lan ≠ shadow := fun same => absurd (congrArg Layer.name same) (by decide)
  have run : (assignSegments config lan >>= fun _ => assignSegments config shadow).outcome
      searched = (.ok (), assigned) := Stage.outcome_eq_ok (by decide +kernel)
  have swapped := (assignSegments_comm valid (by simp [config]) (by simp [config]) different
    searched assigned).mp run
  exact ⟨valid, found, different, run, swapped, by decide +kernel, by decide +kernel⟩

end Annex

end TopoPlan
