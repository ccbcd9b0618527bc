import Mathlib.Data.List.Lattice
import Mathlib.Data.List.Nodup
import Mathlib.Data.List.Perm.Subperm
import Mathlib.Data.List.Permutation
import Mathlib.Logic.Relation
import TopoPlan.Dependency
import TopoPlan.Proofs.Text.Tables

/-!
# Dependency orders

The depth-first search lists every id after the ids that it depends on.  `Visiting` is
what holds along the path of the search, and `Settled` what holds of the ids listed so
far.  The main statement is `sort_of_told_graph`: a sort succeeds on the graphs without
missing dependencies and cycles, and on no others, and gives a dependency order.
-/

namespace TopoPlan

/-- An entry of a list stands somewhere before another one. -/
def Precedes {α : Type} (entries : List α) (first second : α) : Prop :=
  [first, second].Sublist entries

section Precedence

variable {α : Type} {entries : List α} {first second third : α}

/-- What is in the first part precedes what is in the second one. -/
theorem precedes_append {before after : List α} (earlier : first ∈ before)
    (later : second ∈ after) : Precedes (before ++ after) first second :=
  (List.singleton_sublist.mpr earlier).append (List.singleton_sublist.mpr later)

/-- One entry precedes another one when the list can be cut between them. -/
theorem precedes_iff : Precedes entries first second ↔
    ∃ before after, entries = before ++ after ∧ first ∈ before ∧ second ∈ after := by
  rw [Precedes, List.cons_sublist_iff]
  simp only [List.singleton_sublist]

/-- What precedes still does with more entries after it. -/
theorem Precedes.append_right {more : List α} (precedes : Precedes entries first second) :
    Precedes (entries ++ more) first second :=
  List.Sublist.trans precedes (List.sublist_append_left entries more)

/-- An item that precedes another one is listed. -/
theorem Precedes.left (precedes : Precedes entries first second) : first ∈ entries :=
  precedes.subset List.mem_cons_self

/-- An item that another one precedes is listed. -/
theorem Precedes.right (precedes : Precedes entries first second) : second ∈ entries :=
  precedes.subset (List.mem_cons_of_mem _ List.mem_cons_self)

/-- Before a new last entry stand all others. -/
theorem precedes_concat : Precedes (entries ++ [third]) first second ↔
    Precedes entries first second ∨ first ∈ entries ∧ second = third := by
  constructor
  · intro precedes
    obtain ⟨start, rest, same, inEntries, inRest⟩ := List.sublist_append_iff.mp precedes
    rcases List.sublist_singleton.mp inRest with rfl | rfl
    · rw [List.append_nil] at same
      subst same
      exact .inl inEntries
    · change [first] ++ [second] = start ++ [third] at same
      obtain ⟨rfl, last⟩ := List.append_inj' same rfl
      exact .inr ⟨List.singleton_sublist.mp inEntries, List.singleton_inj.mp last⟩
  · rintro (precedes | ⟨earlier, rfl⟩)
    · exact precedes.append_right
    · exact precedes_append earlier (List.mem_singleton_self second)

/-- What entries become keeps their order. -/
theorem Precedes.filterMap {β : Type} (precedes : Precedes entries first second)
    {change : α → Option β} {left right : β} (changesFirst : change first = some left)
    (changesSecond : change second = some right) :
    Precedes (entries.filterMap change) left right := by
  have both := List.Sublist.filterMap change precedes
  rw [List.filterMap_cons, changesFirst, List.filterMap_cons, changesSecond] at both
  exact both

/-- Entries that are kept keep their order. -/
theorem Precedes.filter (precedes : Precedes entries first second) {keep : α → Bool}
    (keepsFirst : keep first = true) (keepsSecond : keep second = true) :
    Precedes (entries.filter keep) first second := by
  have both := List.Sublist.filter keep precedes
  rw [List.filter_cons_of_pos keepsFirst, List.filter_cons_of_pos keepsSecond] at both
  exact both

/-- Of two different entries one stands before the other. -/
theorem precedes_or_precedes (firstListed : first ∈ entries) (secondListed : second ∈ entries)
    (different : first ≠ second) :
    Precedes entries first second ∨ Precedes entries second first := by
  obtain ⟨before, after, rfl⟩ := List.append_of_mem firstListed
  rcases List.mem_append.mp secondListed with earlier | later
  · exact .inr (precedes_append earlier List.mem_cons_self)
  · rcases List.mem_cons.mp later with same | later
    · exact absurd same.symm different
    · rw [List.append_cons]
      exact .inl (precedes_append (List.mem_append_right _ (List.mem_singleton_self first)) later)

/-- In a list without repetition nothing stands before itself. -/
theorem not_precedes_self (once : entries.Nodup) : ¬ Precedes entries first first :=
  List.nodup_iff_sublist.mp once first

/-- In a list without repetition what stands before something stands before all that
follows it. -/
theorem Precedes.trans (once : entries.Nodup) (left : Precedes entries first second)
    (right : Precedes entries second third) : Precedes entries first third := by
  obtain ⟨before, after, rfl, inBefore, inAfter⟩ := precedes_iff.mp left
  obtain ⟨start, rest, same, inStart, inRest⟩ := precedes_iff.mp right
  refine precedes_append inBefore ?_
  -- The second split lies behind the first one, since the entry between stands there.
  rcases List.append_eq_append_iff.mp same with ⟨gap, rfl, rfl⟩ | ⟨gap, rfl, rfl⟩
  · exact List.mem_append_right _ inRest
  · have twice : second ∈ start ++ gap := List.mem_append_left _ inStart
    exact absurd rfl ((List.nodup_append.mp once).2.2 second twice second inAfter)

/-- An entry that all others stand before is the last one. -/
theorem getLast?_eq_of_precedes (once : entries.Nodup) (listed : second ∈ entries)
    (others : ∀ first ∈ entries, first ≠ second → Precedes entries first second) :
    entries.getLast? = some second := by
  obtain ⟨before, after, rfl⟩ := List.append_of_mem listed
  cases after with
  | nil => simp
  | cons third after =>
    have later : Precedes (before ++ second :: third :: after) second third :=
      List.Sublist.trans (List.sublist_append_left [second, third] after)
        (List.sublist_append_right before _)
    have different : third ≠ second := by
      rintro rfl
      exact not_precedes_self once later
    exact absurd (later.trans once (others third later.right different)) (not_precedes_self once)

end Precedence

namespace DependencyGraph

variable {α : Type}

section Orders

variable (graph : DependencyGraph α)

/-- The vertex of an id has another id among its dependencies. -/
def Depends (id dependency : String) : Prop :=
  ∃ vertex dependencies, graph[id]? = some vertex ∧ vertex.dependencies = .ok dependencies ∧
    dependency ∈ dependencies

/-- The dependencies of an id can be told, if it is the id of a vertex. -/
def Tells (id : String) : Prop :=
  ∀ vertex : Vertex α, graph[id]? = some vertex →
    ∃ dependencies, vertex.dependencies = .ok dependencies

/-- The dependencies of every vertex can be told. -/
def Told : Prop :=
  ∀ (id : String) (vertex : Vertex α), graph[id]? = some vertex →
    ∃ dependencies, vertex.dependencies = .ok dependencies

/-- Every dependency is the id of a vertex. -/
def Closed : Prop :=
  ∀ id dependency, graph.Depends id dependency → dependency ∈ graph

/-- No id depends on itself, be it directly or through others. -/
def Acyclic : Prop :=
  ∀ id, ¬ Relation.TransGen graph.Depends id id

/-- All ids, each once and after the ids that it depends on. -/
structure DependencyOrder (ids : List String) : Prop where
  complete : ids.Perm graph.keys
  ordered : ∀ id dependency, graph.Depends id dependency → Precedes ids dependency id

/-- The entries of a list are the items of some ids, one by one. -/
def ItemsOf : List String → List α → Prop :=
  List.Forall₂ fun id item => graph[id]?.map (·.item) = some item

/-- What holds of the ids listed so far: they are ids of the graph without repetition,
and each comes after the ids that it depends on. -/
structure Settled (listed : List String) : Prop where
  once : listed.Nodup
  inside : ∀ id ∈ listed, id ∈ graph
  ordered : ∀ id ∈ listed, ∀ dependency, graph.Depends id dependency →
    Precedes listed dependency id

/-- What holds along the path of a search: it repeats no id and has none of those that
are listed, and the steps that are left make up for its length. -/
structure Visiting (steps : Nat) (path listed : List String) : Prop where
  once : path.Nodup
  inside : ∀ id ∈ path, id ∈ graph
  steps : path.length + steps = graph.size + 1
  apart : path.Disjoint listed

/-- What a visit of an id makes of the ids listed before. -/
structure Visited (path listed : List String) (id : String) (next : List String) : Prop where
  kept : listed ⊆ next
  settled : graph.Settled next
  apart : path.Disjoint next
  listed : id ∈ next

end Orders

variable {graph : DependencyGraph α} {steps : Nat} {path listed next : List String}
  {id dependency : String}

/-- Visiting in order leaves no dependency out. -/
theorem mem_visitOrder {dependencies : List String} :
    dependency ∈ visitOrder dependencies ↔ dependency ∈ dependencies :=
  List.mem_mergeSort

/-- The ids that a vertex depends on are those that it tells. -/
theorem depends_iff {vertex : Vertex α} {dependencies : List String}
    (found : graph[id]? = some vertex) (told : vertex.dependencies = .ok dependencies) :
    graph.Depends id dependency ↔ dependency ∈ dependencies := by
  constructor
  · rintro ⟨other, others, look, tells, member⟩
    cases found.symm.trans look
    cases told.symm.trans tells
    exact member
  · intro member
    exact ⟨vertex, dependencies, found, told, member⟩

/-- What depends on something is in the graph. -/
theorem mem_of_depends (depends : graph.Depends id dependency) : id ∈ graph := by
  obtain ⟨vertex, _, found, _⟩ := depends
  rw [Std.ExtTreeMap.mem_iff_isSome_getElem?, found]
  rfl

/-- A vertex of a graph that was made from a list is in the list. -/
theorem mem_of_getElem?_ofList {vertices : List (String × Vertex α)} {vertex : Vertex α}
    (found : (ofList vertices)[id]? = some vertex) : (id, vertex) ∈ vertices := by
  rcases Table.mem_of_getElem?_setAll found with before | listed
  · rw [Std.ExtTreeMap.getElem?_empty] at before
    cases before
  · exact listed

/-- A list of vertices makes a graph that can be told when each of them can. -/
theorem told_ofList {vertices : List (String × Vertex α)}
    (each : ∀ entry ∈ vertices, ∃ dependencies, entry.2.dependencies = .ok dependencies) :
    (ofList vertices).Told :=
  fun _ _ found => each _ (mem_of_getElem?_ofList found)

/-- A list of ids of the graph without repetition is no longer than the graph. -/
theorem length_le_size (once : listed.Nodup) (inside : ∀ id ∈ listed, id ∈ graph) :
    listed.length ≤ graph.size := by
  rw [← Std.ExtTreeMap.length_keys]
  have keys : listed ⊆ graph.keys := fun id member => Std.ExtTreeMap.mem_keys.mpr (inside id member)
  exact (List.subperm_of_subset once keys).length_le

/-- A path never uses up its steps. -/
theorem Visiting.pos (visiting : graph.Visiting steps path listed) : steps ≠ 0 := by
  have length := length_le_size visiting.once visiting.inside
  have sum := visiting.steps
  omega

/-- Nothing visited is settled. -/
theorem settled_nil : graph.Settled [] :=
  ⟨List.nodup_nil, List.forall_mem_nil _, List.forall_mem_nil _⟩

/-- One id more, after all that it depends on. -/
theorem Settled.snoc (settled : graph.Settled listed) (inside : id ∈ graph) (new : id ∉ listed)
    (ready : ∀ dependency, graph.Depends id dependency → dependency ∈ listed) :
    graph.Settled (listed ++ [id]) where
  once := by
    rw [← List.concat_eq_append]
    exact .concat new settled.once
  inside := List.forall_mem_append.mpr ⟨settled.inside, List.forall_mem_singleton.mpr inside⟩
  ordered := by
    refine List.forall_mem_append.mpr ⟨fun other member dependency depends => ?_,
      List.forall_mem_singleton.mpr fun dependency depends => ?_⟩
    · exact (settled.ordered other member dependency depends).append_right
    · exact precedes_append (ready dependency depends) (List.mem_singleton_self id)

/-- The path to the dependencies of an id that is neither listed nor on the path. -/
theorem Visiting.extend (visiting : graph.Visiting (steps + 1) path listed) (inside : id ∈ graph)
    (unlisted : id ∉ listed) (offPath : id ∉ path) :
    graph.Visiting steps (path ++ [id]) listed where
  once := by
    rw [← List.concat_eq_append]
    exact .concat offPath visiting.once
  inside := List.forall_mem_append.mpr ⟨visiting.inside, List.forall_mem_singleton.mpr inside⟩
  steps := by
    have sum := visiting.steps
    rw [List.length_append, List.length_singleton]
    omega
  apart := List.disjoint_append_left.mpr ⟨visiting.apart, List.singleton_disjoint.mpr unlisted⟩

/-- An id after the ids that were listed for its dependencies. -/
theorem Visited.snoc {middle : List String} (kept : listed ⊆ middle)
    (settled : graph.Settled middle) (apart : (path ++ [id]).Disjoint middle) (inside : id ∈ graph)
    (offPath : id ∉ path)
    (ready : ∀ dependency, graph.Depends id dependency → dependency ∈ middle) :
    graph.Visited path listed id (middle ++ [id]) := by
  obtain ⟨pathApart, idApart⟩ := List.disjoint_append_left.mp apart
  refine ⟨List.Subset.trans kept (List.subset_append_left _ _),
    settled.snoc inside (List.singleton_disjoint.mp idApart) ready, ?_,
    List.mem_append_right _ (List.mem_singleton_self id)⟩
  exact List.disjoint_append_right.mpr ⟨pathApart, List.disjoint_singleton.mpr offPath⟩

/-- Every visit that succeeds lists its id after all that the id depends on. -/
theorem visit_eq_ok (visiting : graph.Visiting steps path listed) (settled : graph.Settled listed)
    (inside : id ∈ graph) (run : visit graph steps path listed id = .ok next) :
    graph.Visited path listed id next := by
  induction steps generalizing path listed id next with
  | zero => exact absurd rfl visiting.pos
  | succ steps inductionHypothesis =>
    unfold visit at run
    split at run
    case isTrue member =>
      cases run
      exact ⟨List.Subset.refl _, settled, visiting.apart, List.contains_iff_mem.mp member⟩
    case isFalse unlisted =>
      split at run
      case isTrue => cases run
      case isFalse offPath =>
        rw [List.contains_iff_mem] at unlisted offPath
        split at run
        case h_1 absent =>
          rw [Std.ExtTreeMap.mem_iff_isSome_getElem?, absent] at inside
          cases inside
        case h_2 vertex found =>
          split at run
          case h_1 => cases run
          case h_2 dependencies told =>
            obtain ⟨middle, visited, same⟩ := Outcome.map_eq_ok.mp run
            subst same
            have extended := visiting.extend inside unlisted offPath
            -- All that the search lists for the dependencies stays off the path to them.
            let motive (done current : List String) : Prop :=
              listed ⊆ current ∧ graph.Settled current ∧ (path ++ [id]).Disjoint current ∧
                ∀ dependency ∈ done, dependency ∈ current
            obtain ⟨kept, sound, apart, covered⟩ : motive (visitOrder dependencies) middle := by
              refine Outcome.foldlM_induction (motive := motive) visited
                ⟨List.Subset.refl _, settled, extended.apart, List.forall_mem_nil _⟩ ?_
              rintro done dependency current after _ ⟨kept, sound, apart, covered⟩ step
              split at step
              case isFalse => cases step
              case isTrue known =>
                have result := inductionHypothesis { extended with apart } sound
                  (Std.ExtTreeMap.contains_iff_mem.mp known) step
                refine ⟨List.Subset.trans kept result.kept, result.settled, result.apart, ?_⟩
                exact List.forall_mem_append.mpr
                  ⟨fun earlier member => result.kept (covered earlier member),
                    List.forall_mem_singleton.mpr result.listed⟩
            refine .snoc kept sound apart inside offPath fun dependency depends => ?_
            exact covered dependency (mem_visitOrder.mpr ((depends_iff found told).mp depends))

/-- A visit succeeds when everything is told, nothing is missing and the path leads to
the id without going round. -/
theorem exists_visit (told : graph.Told) (closed : graph.Closed) (acyclic : graph.Acyclic)
    (leads : ∀ other ∈ path, Relation.TransGen graph.Depends other id) :
    ∃ next, visit graph steps path listed id = .ok next := by
  induction steps generalizing path listed id with
  | zero => exact ⟨listed, rfl⟩
  | succ steps inductionHypothesis =>
    unfold visit
    split
    case isTrue => exact ⟨listed, rfl⟩
    case isFalse =>
      have offPath : ¬ path.contains id = true := by
        rw [List.contains_iff_mem]
        exact fun member => acyclic id (leads id member)
      rw [if_neg offPath]
      split
      case h_1 => exact ⟨listed, rfl⟩
      case h_2 vertex found =>
        obtain ⟨dependencies, tells⟩ := told id vertex found
        rw [tells]
        suffices ∃ middle, (visitOrder dependencies).foldlM (fun listed dependency =>
            if graph.contains dependency then
              visit graph steps (path ++ [id]) listed dependency
            else .error (.unresolvedDependency dependency id)) listed = .ok middle by
          obtain ⟨middle, visited⟩ := this
          exact ⟨middle ++ [id], Outcome.map_eq_ok.mpr ⟨middle, visited, rfl⟩⟩
        refine Outcome.exists_foldlM (fun dependency member current => ?_) listed
        have depends : graph.Depends id dependency :=
          (depends_iff found tells).mpr (mem_visitOrder.mp member)
        rw [if_pos (Std.ExtTreeMap.contains_iff_mem.mpr (closed id dependency depends))]
        refine inductionHypothesis (List.forall_mem_append.mpr
          ⟨fun other onPath => (leads other onPath).tail depends, ?_⟩)
        exact List.forall_mem_singleton.mpr (.single depends)

/-- A visit of all ids that succeeds lists all of them. -/
theorem settled_of_foldlM
    (run : graph.keys.foldlM (visit graph (graph.size + 1) []) [] = .ok listed) :
    graph.Settled listed ∧ graph.keys ⊆ listed := by
  let motive (done current : List String) : Prop :=
    graph.Settled current ∧ ∀ id ∈ done, id ∈ current
  refine Outcome.foldlM_induction (motive := motive) run ⟨settled_nil, List.forall_mem_nil _⟩ ?_
  rintro done id current next start ⟨settled, covered⟩ step
  have visiting : graph.Visiting (graph.size + 1) [] current :=
    ⟨List.nodup_nil, List.forall_mem_nil _, Nat.zero_add _, List.disjoint_nil_left _⟩
  have inside : id ∈ graph := Std.ExtTreeMap.mem_keys.mp (Outcome.mem_of_concat_prefix start)
  have visited := visit_eq_ok visiting settled inside step
  exact ⟨visited.settled, List.forall_mem_append.mpr
    ⟨fun earlier member => visited.kept (covered earlier member),
      List.forall_mem_singleton.mpr visited.listed⟩⟩

/-- Settled ids that are all ids are in dependency order. -/
theorem Settled.dependencyOrder (settled : graph.Settled listed) (all : graph.keys ⊆ listed) :
    graph.DependencyOrder listed where
  complete := by
    refine (List.perm_ext_iff_of_nodup settled.once Std.ExtTreeMap.nodup_keys).mpr fun id => ?_
    exact ⟨fun member => Std.ExtTreeMap.mem_keys.mpr (settled.inside id member), fun key => all key⟩
  ordered id dependency depends :=
    settled.ordered id (all (Std.ExtTreeMap.mem_keys.mpr (mem_of_depends depends))) dependency
      depends

/-- A visit of all ids that succeeds lists as many as there are. -/
theorem length_of_foldlM
    (run : graph.keys.foldlM (visit graph (graph.size + 1) []) [] = .ok listed) :
    listed.length = graph.size := by
  obtain ⟨settled, all⟩ := settled_of_foldlM run
  rw [(settled.dependencyOrder all).complete.length_eq, Std.ExtTreeMap.length_keys]

/-- The ids that a sort gives are in dependency order. -/
theorem dependencyOrder_of_sortIds (run : graph.sortIds = .ok listed) :
    graph.DependencyOrder listed := by
  obtain ⟨visited, folded, run⟩ := Outcome.bind_eq_ok.mp run
  obtain ⟨settled, all⟩ := settled_of_foldlM folded
  split at run
  case isFalse => cases run
  case isTrue =>
    cases run
    exact settled.dependencyOrder all

/-- A sort succeeds when everything is told, nothing is missing and nothing goes
round. -/
theorem exists_sortIds (told : graph.Told) (closed : graph.Closed) (acyclic : graph.Acyclic) :
    ∃ ids, graph.sortIds = .ok ids := by
  have visits : ∃ listed,
      graph.keys.foldlM (visit graph (graph.size + 1) []) [] = .ok listed :=
    Outcome.exists_foldlM
      (fun _ _ _ => exists_visit told closed acyclic (List.forall_mem_nil _)) []
  obtain ⟨listed, folded⟩ := visits
  refine ⟨listed, Outcome.bind_eq_ok.mpr ⟨listed, folded, ?_⟩⟩
  rw [if_pos (length_of_foldlM folded)]
  rfl

namespace DependencyOrder

variable {ids : List String}

/-- No item is listed twice. -/
theorem once (order : graph.DependencyOrder ids) : ids.Nodup :=
  order.complete.nodup_iff.mpr Std.ExtTreeMap.nodup_keys

/-- An order lists exactly what is in the graph. -/
theorem mem_iff (order : graph.DependencyOrder ids) : id ∈ ids ↔ id ∈ graph := by
  rw [order.complete.mem_iff, Std.ExtTreeMap.mem_keys]

/-- A graph with a dependency order misses no dependency. -/
theorem closed (order : graph.DependencyOrder ids) : graph.Closed :=
  fun id dependency depends => order.mem_iff.mp (order.ordered id dependency depends).left

/-- In a dependency order every id stands after all that it depends on through others. -/
theorem precedes_of_transGen (order : graph.DependencyOrder ids)
    (depends : Relation.TransGen graph.Depends id dependency) : Precedes ids dependency id := by
  induction depends with
  | single depends => exact order.ordered _ _ depends
  | tail _ depends inductionHypothesis =>
    exact (order.ordered _ _ depends).trans order.once inductionHypothesis

/-- A graph with a dependency order has no cycle. -/
theorem acyclic (order : graph.DependencyOrder ids) : graph.Acyclic :=
  fun _ cycle => not_precedes_self order.once (order.precedes_of_transGen cycle)

/-- Every id of a dependency order has an item. -/
theorem itemsOf (order : graph.DependencyOrder ids) :
    graph.ItemsOf ids (ids.filterMap fun id => graph[id]?.map (·.item)) := by
  have inside : ∀ id ∈ ids, id ∈ graph := fun _ => order.mem_iff.mp
  clear order
  induction ids with
  | nil => exact .nil
  | cons id rest inductionHypothesis =>
    obtain ⟨first, others⟩ := List.forall_mem_cons.mp inside
    obtain ⟨vertex, found⟩ :=
      Option.isSome_iff_exists.mp (Std.ExtTreeMap.mem_iff_isSome_getElem?.mp first)
    have item : graph[id]?.map (·.item) = some vertex.item := by
      rw [found]
      rfl
    rw [List.filterMap_cons, item]
    exact .cons item (inductionHypothesis others)

end DependencyOrder

/-- The items of some ids are found by looking them up. -/
theorem ItemsOf.eq_filterMap {ids : List String} {items : List α}
    (itemsOf : graph.ItemsOf ids items) :
    items = ids.filterMap fun id => graph[id]?.map (·.item) := by
  induction itemsOf with
  | nil => rfl
  | cons item _ inductionHypothesis => rw [List.filterMap_cons, item, inductionHypothesis]

/-- A graph has no cycle when a rank falls along all dependencies. -/
theorem acyclic_of_rank (rank : String → Nat)
    (falls : ∀ id dependency, graph.Depends id dependency → rank dependency < rank id) :
    graph.Acyclic := by
  have falling : ∀ id dependency, Relation.TransGen graph.Depends id dependency →
      rank dependency < rank id := by
    intro id dependency depends
    induction depends with
    | single depends => exact falls _ _ depends
    | tail _ depends inductionHypothesis =>
      exact Nat.lt_trans (falls _ _ depends) inductionHypothesis
  exact fun id cycle => Nat.lt_irrefl _ (falling id id cycle)

/-- A sort succeeds when everything is told, nothing is missing and nothing goes round. -/
theorem exists_sort (told : graph.Told) (closed : graph.Closed) (acyclic : graph.Acyclic) :
    ∃ items, graph.sort = .ok items := by
  obtain ⟨ids, sorted⟩ := exists_sortIds told closed acyclic
  exact ⟨_, Outcome.map_eq_ok.mpr ⟨ids, sorted, rfl⟩⟩

/-- The items that a sort gives are those of a dependency order. -/
theorem exists_order_of_sort {items : List α} (run : graph.sort = .ok items) :
    ∃ ids, graph.DependencyOrder ids ∧ graph.ItemsOf ids items := by
  obtain ⟨ids, sorted, same⟩ := Outcome.map_eq_ok.mp run
  subst same
  have order := dependencyOrder_of_sortIds sorted
  exact ⟨ids, order, order.itemsOf⟩

/-- All ids that a visit lists tell their dependencies when those listed before do. -/
theorem tells_of_visit (tells : ∀ other ∈ listed, graph.Tells other)
    (run : visit graph steps path listed id = .ok next) : ∀ other ∈ next, graph.Tells other := by
  induction steps generalizing path listed id next with
  | zero =>
    cases run
    exact tells
  | succ steps inductionHypothesis =>
    unfold visit at run
    split at run
    case isTrue =>
      cases run
      exact tells
    case isFalse =>
      split at run
      case isTrue => cases run
      case isFalse =>
        split at run
        case h_1 =>
          cases run
          exact tells
        case h_2 vertex found =>
          split at run
          case h_1 => cases run
          case h_2 dependencies told =>
            obtain ⟨middle, visited, same⟩ := Outcome.map_eq_ok.mp run
            subst same
            let motive (_ current : List String) : Prop := ∀ other ∈ current, graph.Tells other
            have earlier : motive (visitOrder dependencies) middle := by
              refine Outcome.foldlM_induction (motive := motive) visited tells ?_
              intro done dependency current after _ holds step
              split at step
              case isFalse => cases step
              case isTrue => exact inductionHypothesis holds step
            refine List.forall_mem_append.mpr ⟨earlier, List.forall_mem_singleton.mpr ?_⟩
            intro other look
            cases found.symm.trans look
            exact ⟨dependencies, told⟩

/-- A sort that succeeds was told the dependencies of every vertex. -/
theorem told_of_sort {items : List α} (run : graph.sort = .ok items) : graph.Told := by
  obtain ⟨ids, sorted, _⟩ := Outcome.map_eq_ok.mp run
  have order := dependencyOrder_of_sortIds sorted
  obtain ⟨visited, folded, sorted⟩ := Outcome.bind_eq_ok.mp sorted
  let motive (_ current : List String) : Prop := ∀ id ∈ current, graph.Tells id
  have tells : motive graph.keys visited := by
    refine Outcome.foldlM_induction (motive := motive) folded (List.forall_mem_nil _) ?_
    exact fun _ _ _ _ _ holds step => tells_of_visit holds step
  split at sorted
  case isFalse => cases sorted
  case isTrue =>
    cases sorted
    intro id vertex found
    refine tells id (order.mem_iff.mpr ?_) vertex found
    rw [Std.ExtTreeMap.mem_iff_isSome_getElem?, found]
    rfl

/-- A graph whose dependencies can be told is sorted exactly when none of them is missing
and none goes round.  The sort then gives the item of every id once, and after the items
of all ids that it depends on. -/
theorem sort_of_told_graph (graph : DependencyGraph α) (told : graph.Told) :
    ((∃ items, graph.sort = .ok items) ↔ graph.Closed ∧ graph.Acyclic) ∧
      ∀ items, graph.sort = .ok items →
        ∃ ids, graph.DependencyOrder ids ∧ graph.ItemsOf ids items := by
  refine ⟨⟨?_, ?_⟩, fun items => exists_order_of_sort⟩
  · rintro ⟨items, run⟩
    obtain ⟨ids, order, _⟩ := exists_order_of_sort run
    exact ⟨order.closed, order.acyclic⟩
  · rintro ⟨closed, acyclic⟩
    exact exists_sort told closed acyclic

/-- Two ids that share what they depend on, and one that depends on both. -/
def diamond : DependencyGraph String :=
  ofList
    [("top", ⟨"roof", .ok ["right", "left", "right"]⟩), ("left", ⟨"wall", .ok ["base"]⟩),
      ("right", ⟨"wall", .ok ["base"]⟩), ("base", ⟨"floor", .ok []⟩)]

/-- The shared id comes once and first, whatever the order of the list. -/
theorem sort_of_told_graph_diamond :
    diamond.Told ∧ diamond.sort = .ok ["floor", "wall", "wall", "roof"] ∧
      (diamond.Closed ∧ diamond.Acyclic) ∧
        ∃ ids, diamond.DependencyOrder ids ∧
          diamond.ItemsOf ids ["floor", "wall", "wall", "roof"] := by
  have told : diamond.Told := told_ofList (by simp)
  have sorted : diamond.sort = .ok ["floor", "wall", "wall", "roof"] := by cbv
  obtain ⟨succeeds, orders⟩ := sort_of_told_graph diamond told
  exact ⟨told, sorted, succeeds.mp ⟨_, sorted⟩, orders _ sorted⟩

end DependencyGraph

end TopoPlan
