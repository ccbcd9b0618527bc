import TopoPlan.Proofs.Network.WellFormed

/-!
# When views cannot be made

Views are all computed before the first one is stored, and only labels stand in their way: a
place label that is published twice, or an alias for a label that nobody publishes.  The main
statement, `obstacles_of_reached`, says so of the networks that a compilation reaches, where
every labelled object is found through the nodes and the groups.
-/

namespace TopoPlan

namespace View

open Network

/-- The place labels of all nodes, interfaces and groups, one list after the other. -/
def placeLabels (network : Network) : List String :=
  (network.nodeIds.flatMap fun id => (network.node id).labels.places) ++
    (network.interfaceIds.flatMap fun id => (network.interface id).labels.places) ++
    network.groupIds.flatMap fun id => (network.group id).labels.places

/-- A place label occurs more than once. -/
def Repeats (network : Network) (label : String) : Prop :=
  2 ≤ (placeLabels network).count label

/-- A node or an interface has an alias for something that is no place label. -/
def Astray (network : Network) (target name : String) : Prop :=
  target ∉ placeLabels network ∧
    ((∃ id < network.nodes.size, (network.node id).labels.aliases[name]? = some target) ∨
      ∃ id < network.interfaces.size, (network.interface id).labels.aliases[name]? = some target)

variable {network : Network} {error : CompileError}

/-! ## Labels -/

/-- Publishing goes through the labels of all objects when interfaces are listed at their
nodes. -/
theorem published_perm (coherent : network.Coherent) :
    ((PlaceLabels.published network).map Prod.fst).Perm (placeLabels network) := by
  have labels (scope : Scope) (labels : Labels) :
      (labels.places.map fun label => (label, scope)).map Prod.fst = labels.places := by
    rw [List.map_map]
    exact List.map_id _
  unfold PlaceLabels.published placeLabels
  simp only [List.map_append, List.map_flatMap, labels]
  refine (List.flatMap_append_perm network.nodeIds _ _).symm.append_right _ |>.trans ?_
  refine List.Perm.append_right _ (List.Perm.append_left _ ?_)
  rw [← List.flatMap_assoc]
  exact (ports_perm coherent.interfaces).flatMap_right _

/-- The publishers of a network are found under the labels that are published. -/
theorem mem_publishers {label : String} :
    label ∈ publishers network ↔ label ∈ (PlaceLabels.published network).map Prod.fst := by
  rw [Std.ExtTreeMap.mem_iff_isSome_getElem?, publishers, Table.getElem?_setAll,
    Std.ExtTreeMap.getElem?_empty, Option.or_none, List.lookup_isSome_iff, List.mem_map]
  simp only [List.mem_reverse, beq_iff_eq, eq_comm (a := label)]

/-- The aliases that lead nowhere are those of objects in the list of all objects. -/
theorem astray_iff (coherent : network.Coherent) {target name : String} :
    Astray network target name ↔ target ∉ publishers network ∧
      ∃ scope ∈ network.scopes, (aliases network scope)[name]? = some target := by
  rw [Astray, mem_publishers, (published_perm coherent).mem_iff]
  refine and_congr_right fun _ => ⟨?_, ?_⟩
  · rintro (⟨id, inside, found⟩ | ⟨id, inside, found⟩)
    · exact ⟨.node id, coherent.mem_scopes.mpr inside, found⟩
    · exact ⟨.interface id, coherent.mem_scopes.mpr inside, found⟩
  · rintro ⟨scope, listed, found⟩
    have has := coherent.mem_scopes.mp listed
    cases scope with
    | node id => exact .inl ⟨id, has, found⟩
    | interface id => exact .inr ⟨id, has, found⟩
    | _ => cases Std.ExtTreeMap.getElem?_empty.symm.trans found

/-! ## What fails -/

/-- Publishing fails with a label that is published twice. -/
theorem ofNetwork_eq_error (failed : PlaceLabels.ofNetwork network = .error error) :
    ∃ label first second, error = .duplicatePlaceLabel label first second ∧
      2 ≤ ((PlaceLabels.published network).map Prod.fst).count label := by
  obtain ⟨done, entry, places, start, run, step⟩ :=
    Outcome.exists_prefix_of_foldlM_eq_error failed
  let motive (done : List (String × Scope)) (current : PlaceLabels) : Prop :=
    ∀ label ∈ current, label ∈ done.map Prod.fst
  have earlier : motive done places := by
    refine Outcome.foldlM_induction (motive := motive) run
      (fun _ found => absurd found Std.ExtTreeMap.not_mem_empty) ?_
    rintro done entry current next _ known step label found
    unfold PlaceLabels.publish at step
    split at step
    case h_1 => cases step
    case h_2 =>
      cases step
      rw [List.map_append, List.mem_append]
      rcases Std.ExtTreeMap.mem_insert.mp found with same | before
      · refine .inr ?_
        rw [← Std.LawfulEqCmp.compare_eq_iff_eq.mp same]
        exact List.mem_singleton_self _
      · exact .inl (known label before)
  unfold PlaceLabels.publish at step
  split at step
  case h_2 => cases step
  case h_1 found =>
    cases step
    refine ⟨_, _, _, rfl, ?_⟩
    have known : entry.1 ∈ done.map Prod.fst :=
      earlier _ (Std.ExtTreeMap.mem_iff_isSome_getElem?.mpr (by rw [found]; rfl))
    calc 2 ≤ (done.map Prod.fst).count entry.1 + 1 :=
          Nat.succ_le_succ (List.count_pos_iff.mpr known)
      _ = ((done ++ [entry]).map Prod.fst).count entry.1 := by simp
      _ ≤ ((PlaceLabels.published network).map Prod.fst).count entry.1 :=
          (start.map Prod.fst).sublist.count_le _

/-- The view of an object fails with an alias of the object for a label that is not
published. -/
theorem ofScope_eq_error {scope : Scope}
    (failed : ofScope network (publications network) scope = .error error) :
    ∃ target name, error = .unknownPlaceLabel target name ∧ target ∉ publishers network ∧
      (aliases network scope)[name]? = some target := by
  rcases Outcome.bind_eq_error.mp (Outcome.map_eq_error.mp failed) with mapped | ⟨_, _, pure⟩
  · obtain ⟨entry, listed, step⟩ := Outcome.exists_of_mapM_eq_error mapped
    unfold ofAlias at step
    split at step
    case h_1 => cases step
    case h_2 absent =>
      cases step
      rw [publications, Std.ExtTreeMap.getElem?_map, Option.map_eq_none_iff] at absent
      refine ⟨_, _, rfl, fun published => ?_,
        Std.ExtTreeMap.mem_toList_iff_getElem?_eq_some.mp listed⟩
      rw [Std.ExtTreeMap.mem_iff_isSome_getElem?, absent] at published
      cases published
  · cases pure

/-- Views are built, or a label is published twice, or else an alias leads nowhere.  A network
whose views cannot be built stays as it is. -/
theorem build_cases (network : Network) :
    (∃ order after, build.outcome network = (.ok order, after) ∧
        ((PlaceLabels.published network).map Prod.fst).Nodup ∧
        ∀ scope ∈ network.scopes, ∀ entry ∈ (aliases network scope).toList,
          entry.2 ∈ publishers network) ∨
      (∃ label first second, build.outcome network =
          (.error (.duplicatePlaceLabel label first second), network) ∧
        2 ≤ ((PlaceLabels.published network).map Prod.fst).count label) ∨
      ∃ target name, build.outcome network = (.error (.unknownPlaceLabel target name), network) ∧
        ((PlaceLabels.published network).map Prod.fst).Nodup ∧ target ∉ publishers network ∧
        ∃ scope ∈ network.scopes, (aliases network scope)[name]? = some target := by
  have fails {error : CompileError} (told : all network = .error error) :
      build.outcome network = (.error error, network) := by
    rw [outcome_build, told]
  cases told : all network with
  | ok views =>
    obtain ⟨once, ordered, each⟩ := all_eq_ok told
    refine .inl ⟨views.map Prod.fst, store network views, ?_, once, fun scope listed => ?_⟩
    · rw [outcome_build, told]
    · obtain ⟨entry, member, rfl⟩ :=
        List.mem_map.mp ((ScopeOrder.order_perm ordered).mem_iff.mpr listed)
      exact (ofScope_eq_ok (each entry member)).1
  | error error =>
    rcases Outcome.bind_eq_error.mp told with unpublished | ⟨places, placed, rest⟩
    · obtain ⟨label, first, second, rfl, twice⟩ := ofNetwork_eq_error unpublished
      exact .inr (.inl ⟨label, first, second, fails told, twice⟩)
    · obtain ⟨once, rfl⟩ := places_eq placed
      obtain ⟨order, ordered⟩ := ScopeOrder.exists_order network network.scopes
      rw [ordered] at rest
      rcases Outcome.bind_eq_error.mp rest with unordered | ⟨_, same, mapped⟩
      · cases unordered
      · cases same
        obtain ⟨scope, listed, step⟩ := Outcome.exists_of_mapM_eq_error mapped
        rcases Outcome.bind_eq_error.mp step with hidden | ⟨_, _, pure⟩
        · obtain ⟨target, name, rfl, absent, found⟩ := ofScope_eq_error hidden
          exact .inr (.inr ⟨target, name, fails told, once, absent, scope,
            (ScopeOrder.order_perm ordered).mem_iff.mp listed, found⟩)
        · cases pure

/-- What stands in the way of views. -/
structure Obstacles (network : Network) : Prop where
  /-- A place label that occurs more than once comes first. -/
  duplicate : (∃ label first second,
      (build.outcome network).1 = .error (.duplicatePlaceLabel label first second)) ↔
    ∃ label, Repeats network label
  /-- Next is an alias for something that is no place label. -/
  unknown : (∃ target name, (build.outcome network).1 = .error (.unknownPlaceLabel target name)) ↔
    (¬ ∃ label, Repeats network label) ∧ ∃ target name, Astray network target name
  /-- Without them views are built. -/
  success : (∃ order, (build.outcome network).1 = .ok order) ↔
    (¬ ∃ label, Repeats network label) ∧ ¬ ∃ target name, Astray network target name
  /-- The error names the label. -/
  label : ∀ label first second,
    (build.outcome network).1 = .error (.duplicatePlaceLabel label first second) →
      Repeats network label
  /-- The error names the alias and what it is for. -/
  target : ∀ target name,
    (build.outcome network).1 = .error (.unknownPlaceLabel target name) →
      Astray network target name
  /-- Nothing else fails, and a network whose views cannot be built stays as it is. -/
  others : ∀ error after, build.outcome network = (.error error, after) → after = network ∧
    ((∃ label first second, error = .duplicatePlaceLabel label first second) ∨
      ∃ target name, error = .unknownPlaceLabel target name)

/-- Place labels are different exactly when none repeats. -/
theorem nodup_placeLabels_iff :
    (placeLabels network).Nodup ↔ ¬ ∃ label, Repeats network label := by
  rw [List.nodup_iff_count_le_one, not_exists]
  exact forall_congr' fun label => Nat.not_lt.symm

/-- Before views are built, labels alone stand in their way. -/
theorem obstacles_of_reached {compiler : Compiler} {files : TextFiles} {topology : Topology}
    (reached : compiler.Reached files topology .extended network) : Obstacles network := by
  have coherent := (Compiler.intact_of_reached reached).coherent
  have labels := published_perm coherent
  have astray {target name : String} := @astray_iff network coherent target name
  rcases build_cases network with ⟨order, after, run, once, targets⟩ |
    ⟨label, first, second, run, twice⟩ | ⟨target, name, run, once, lost⟩
  · have single := nodup_placeLabels_iff.mp (labels.nodup_iff.mp once)
    have led : ¬ ∃ target name, Astray network target name := by
      rintro ⟨target, name, wrong⟩
      obtain ⟨absent, scope, listed, found⟩ := astray.mp wrong
      exact absent (targets scope listed (name, target)
        (Std.ExtTreeMap.mem_toList_iff_getElem?_eq_some.mpr found))
    constructor <;> simp [run, single, led]
  · rw [labels.count_eq] at twice
    have repeats : ∃ label, Repeats network label := ⟨label, twice⟩
    constructor <;> simp [run, repeats]
    exact twice
  · have single := nodup_placeLabels_iff.mp (labels.nodup_iff.mp once)
    have wrong := astray.mpr lost
    have exists_wrong : ∃ target name, Astray network target name := ⟨target, name, wrong⟩
    constructor <;> simp [run, single, exists_wrong]
    exact wrong

end View

namespace Museum

/-- A configuration that asks for nothing. -/
def config : Config where
  name := "museum"

/-- The compiler of the configuration. -/
def compiler : Compiler where
  config := config
  extensions := [.builtin]
  generators := {}
  extra := {}

/-- A node and an interface publish one label, and there is an alias for another one. -/
def crowded : Topology where
  nodes := [{ name := "a", labels := ["@hall", "@way=exit"] }, { name := "b" }]
  edges := [{ source := "a", target := "b", targetLabels := ["@hall"] }]

/-- The alias alone stands in the way. -/
def lost : Topology where
  nodes := [{ name := "a", labels := ["@hall"] }, { name := "b" }]
  edges := [{ source := "a", target := "b", targetLabels := ["@way=exit"] }]

/-- The label that is published twice counts before the alias that leads nowhere. -/
theorem obstacles_of_crowded :
    compiler.Reached .none crowded .extended (compiler.extended .none crowded) ∧
      View.Obstacles (compiler.extended .none crowded) ∧
      (View.build.outcome (compiler.extended .none crowded)).1 =
        .error (.duplicatePlaceLabel "hall" "node a" "interface b.net0") ∧
      compiler.Reached .none lost .extended (compiler.extended .none lost) ∧
      View.Obstacles (compiler.extended .none lost) ∧
      ∃ target name, (View.build.outcome (compiler.extended .none lost)).1 =
        .error (.unknownPlaceLabel target name) := by
  have crowdedReached :
      compiler.Reached .none crowded .extended (compiler.extended .none crowded) :=
    Compiler.Succeeds.reached_extended (by constructor <;> decide +kernel)
  have lostReached : compiler.Reached .none lost .extended (compiler.extended .none lost) :=
    Compiler.Succeeds.reached_extended (by constructor <;> decide +kernel)
  have obstacles := View.obstacles_of_reached lostReached
  have once : ¬ ∃ label, View.Repeats (compiler.extended .none lost) label :=
    View.nodup_placeLabels_iff.mp (by decide +kernel)
  have astray : View.Astray (compiler.extended .none lost) "exit" "way" :=
    ⟨by decide +kernel, .inr ⟨1, by decide +kernel, by decide +kernel⟩⟩
  exact ⟨crowdedReached, View.obstacles_of_reached crowdedReached, by decide +kernel,
    lostReached, obstacles, obstacles.unknown.mpr ⟨once, "exit", "way", astray⟩⟩

end Museum

end TopoPlan
