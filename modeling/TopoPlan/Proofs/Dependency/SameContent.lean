import Mathlib.Data.List.Dedup
import Mathlib.Data.List.Sort
import Mathlib.Data.String.Basic
import TopoPlan.Proofs.Dependency.Order

/-!
# Sorts of the same content

The search takes the dependencies of a vertex as a set: it sorts them first, and a
dependency that is visited once more changes nothing.  So the searches of two graphs with
the same content do the same, step by step, and end in the same way.  The main statement is
`sort_ofList_eq`: neither the order in which vertices were added nor the order and the
repetitions of dependencies have any effect on a sort.
-/

namespace TopoPlan

/-- Two vertices tell the same ids, whatever their order, or the same error. -/
inductive SameDependencies :
    Except CompileError (List String) → Except CompileError (List String) → Prop where
  | told {left right : List String} (same : ∀ id, id ∈ left ↔ id ∈ right) :
      SameDependencies (.ok left) (.ok right)
  | untold (error : CompileError) : SameDependencies (.error error) (.error error)

/-- Two vertices have the same item and depend on the same ids. -/
structure Vertex.Alike {α : Type} (left right : Vertex α) : Prop where
  item : left.item = right.item
  dependencies : SameDependencies left.dependencies right.dependencies

namespace Outcome

variable {ε State : Type} {step : State → String → Except ε State} {entries : List String}

/-- A fold over a sorted list passes over repetitions when a step that succeeded changes
nothing if it is done once more. -/
theorem foldlM_dedup
    (again : ∀ entry state next, step state entry = .ok next → step next entry = .ok next)
    (sorted : entries.Pairwise (· ≤ ·)) (start : State) :
    entries.dedup.foldlM step start = entries.foldlM step start := by
  induction entries generalizing start with
  | nil => rfl
  | cons entry rest inductionHypothesis =>
    obtain ⟨least, sortedRest⟩ := List.pairwise_cons.mp sorted
    by_cases repeated : entry ∈ rest
    · rw [List.dedup_cons_of_mem repeated, inductionHypothesis sortedRest]
      cases rest with
      | nil => cases repeated
      | cons first more =>
        -- In a sorted list equal entries stand next to each other.
        have same : first = entry := by
          rcases List.mem_cons.mp repeated with same | later
          · exact same.symm
          · exact le_antisymm ((List.pairwise_cons.mp sortedRest).1 entry later)
              (least first List.mem_cons_self)
        subst same
        rw [List.foldlM_cons, List.foldlM_cons]
        cases run : step start first with
        | error => rfl
        | ok next =>
          change more.foldlM step next = (first :: more).foldlM step next
          rw [List.foldlM_cons, again first start next run]
          rfl
    · rw [List.dedup_cons_of_notMem repeated, List.foldlM_cons, List.foldlM_cons]
      exact bind_congr fun next => inductionHypothesis sortedRest next

end Outcome

namespace DependencyGraph

variable {α : Type}

/-- Dependencies are visited in the order of their names. -/
theorem pairwise_visitOrder (dependencies : List String) :
    (visitOrder dependencies).Pairwise (· ≤ ·) :=
  List.pairwise_mergeSort' (· ≤ ·) dependencies

/-- The ids to visit, without repetitions, are told by the set of dependencies. -/
theorem dedup_visitOrder {left right : List String} (same : ∀ id, id ∈ left ↔ id ∈ right) :
    (visitOrder left).dedup = (visitOrder right).dedup := by
  have sorted (ids : List String) : (visitOrder ids).dedup.Pairwise (· ≤ ·) :=
    (pairwise_visitOrder ids).sublist (List.dedup_sublist _)
  apply List.Perm.eq_of_pairwise' (sorted left) (sorted right)
  rw [List.perm_ext_iff_of_nodup (List.nodup_dedup _) (List.nodup_dedup _)]
  simpa [mem_visitOrder] using same

section OneGraph

variable {graph : DependencyGraph α} {steps : Nat} {path listed next : List String}
  {id : String}

/-- A visit that adds nothing is one whose id may still be missing from the list. -/
theorem eq_self_or_mem_of_visit (run : visit graph steps path listed id = .ok next) :
    next = listed ∨ id ∈ next := by
  cases steps with
  | zero =>
    cases run
    exact .inl rfl
  | succ steps =>
    unfold visit at run
    split at run
    case isTrue =>
      cases run
      exact .inl rfl
    case isFalse =>
      split at run
      case isTrue => cases run
      case isFalse =>
        split at run
        case h_1 =>
          cases run
          exact .inl rfl
        case h_2 vertex found =>
          split at run
          case h_1 => cases run
          case h_2 dependencies told =>
            obtain ⟨middle, visited, rfl⟩ := Outcome.map_eq_ok.mp run
            exact .inr (List.mem_append_right _ (List.mem_singleton_self id))

/-- A visit that succeeded changes nothing if it is done once more. -/
theorem visit_again (run : visit graph steps path listed id = .ok next) :
    visit graph steps path next id = .ok next := by
  rcases eq_self_or_mem_of_visit run with rfl | member
  · exact run
  · cases steps with
    | zero => rfl
    | succ steps =>
      unfold visit
      rw [if_pos (List.contains_iff_mem.mpr member)]

/-- The dependencies of an id are visited as a set. -/
theorem foldlM_visitOrder {left right : List String} (same : ∀ id, id ∈ left ↔ id ∈ right) :
    (visitOrder left).foldlM (fun listed dependency =>
        if graph.contains dependency then visit graph steps path listed dependency
        else .error (.unresolvedDependency dependency id)) listed =
      (visitOrder right).foldlM (fun listed dependency =>
        if graph.contains dependency then visit graph steps path listed dependency
        else .error (.unresolvedDependency dependency id)) listed := by
  have again (dependency : String) (listed next : List String)
      (run : (if graph.contains dependency then visit graph steps path listed dependency
        else .error (.unresolvedDependency dependency id)) = .ok next) :
      (if graph.contains dependency then visit graph steps path next dependency
        else .error (.unresolvedDependency dependency id)) = .ok next := by
    split at run
    case isTrue known => rw [if_pos known, visit_again run]
    case isFalse => cases run
  rw [← Outcome.foldlM_dedup again (pairwise_visitOrder left), dedup_visitOrder same,
    Outcome.foldlM_dedup again (pairwise_visitOrder right)]

end OneGraph

section TwoGraphs

variable {graph other : DependencyGraph α}

/-- Graphs with the same content have the same ids. -/
theorem keys_congr (alike : ∀ id : String, Option.Rel Vertex.Alike graph[id]? other[id]?) :
    graph.keys = other.keys := by
  have same : graph.map (fun _ _ => ()) = other.map fun _ _ => () := by
    ext id : 1
    have vertices := alike id
    rw [Std.ExtTreeMap.getElem?_map, Std.ExtTreeMap.getElem?_map]
    generalize graph[id]? = left, other[id]? = right at vertices ⊢
    cases vertices <;> rfl
  rw [← Std.ExtTreeMap.keys_map (t := graph), same, Std.ExtTreeMap.keys_map]

/-- Visits of graphs alike in content are the same. -/
theorem visit_congr (alike : ∀ id : String, Option.Rel Vertex.Alike graph[id]? other[id]?)
    (steps : Nat) (path listed : List String) (id : String) :
    visit graph steps path listed id = visit other steps path listed id := by
  have contains (id : String) : graph.contains id = other.contains id := by
    rw [Bool.eq_iff_iff, Std.ExtTreeMap.contains_iff_mem, Std.ExtTreeMap.contains_iff_mem,
      ← Std.ExtTreeMap.mem_keys, keys_congr alike, Std.ExtTreeMap.mem_keys]
  induction steps generalizing path listed id with
  | zero => rfl
  | succ steps inductionHypothesis =>
    have step : visit graph steps = visit other steps := by
      funext path listed id
      exact inductionHypothesis path listed id
    have vertices := alike id
    unfold visit
    generalize graph[id]? = left, other[id]? = right at vertices ⊢
    cases vertices with
    | none => rfl
    | @some left right same =>
      have dependencies := same.dependencies
      simp only [step, contains]
      generalize left.dependencies = tells, right.dependencies = others at dependencies ⊢
      cases dependencies with
      | untold => rfl
      | told same => simp only [foldlM_visitOrder same]

/-- Graphs with the same content have the same sort. -/
theorem sort_congr (alike : ∀ id : String, Option.Rel Vertex.Alike graph[id]? other[id]?) :
    graph.sort = other.sort := by
  have visits (steps : Nat) : visit graph steps = visit other steps := by
    funext path listed id
    exact visit_congr alike steps path listed id
  have size : graph.size = other.size := by
    rw [← Std.ExtTreeMap.length_keys, keys_congr alike, Std.ExtTreeMap.length_keys]
  have items (id : String) : graph[id]?.map (·.item) = other[id]?.map (·.item) := by
    have vertices := alike id
    generalize graph[id]? = left, other[id]? = right at vertices ⊢
    cases vertices with
    | none => rfl
    | some same => exact congrArg some same.item
  simp only [sort, sortIds, keys_congr alike, visits, size, items]

end TwoGraphs

/-- The vertex that was added last under an id. -/
def lastAdded? (vertices : List (String × Vertex α)) (id : String) : Option (Vertex α) :=
  vertices.reverse.lookup id

/-- A graph has the vertex that was added last. -/
theorem getElem?_ofList (vertices : List (String × Vertex α)) (id : String) :
    (ofList vertices)[id]? = lastAdded? vertices id := by
  rw [ofList, Table.getElem?_setAll, Std.ExtTreeMap.getElem?_empty, Option.or_none, lastAdded?]

/-- A sort depends on the content of a graph alone: not on the order in which its vertices
were added, and not on the order and the repetitions of what they depend on.  The same
items are listed, or the same error is met. -/
theorem sort_ofList_eq {vertices others : List (String × Vertex α)}
    (alike : ∀ id, Option.Rel Vertex.Alike (lastAdded? vertices id) (lastAdded? others id)) :
    (ofList vertices).sort = (ofList others).sort :=
  sort_congr fun id => by
    rw [getElem?_ofList, getElem?_ofList]
    exact alike id

/-- Three vertices, where the first one is replaced by the last. -/
def replaced : List (String × Vertex Nat) :=
  [("a", ⟨7, .ok ["z"]⟩), ("b", ⟨1, .ok ["c", "c"]⟩), ("c", ⟨2, .ok []⟩),
    ("a", ⟨0, .ok ["b", "c", "b"]⟩)]

/-- The same content in another order. -/
def shuffled : List (String × Vertex Nat) :=
  [("c", ⟨2, .ok []⟩), ("a", ⟨0, .ok ["c", "b"]⟩), ("b", ⟨1, .ok ["c"]⟩)]

/-- Both lists are sorted alike. -/
theorem sort_ofList_eq_shuffled :
    (∀ id, Option.Rel Vertex.Alike (lastAdded? replaced id) (lastAdded? shuffled id)) ∧
      (ofList replaced).sort = .ok [2, 1, 0] ∧
        (ofList replaced).sort = (ofList shuffled).sort := by
  have alike : ∀ id, Option.Rel Vertex.Alike (lastAdded? replaced id) (lastAdded? shuffled id) := by
    intro id
    by_cases a : id = "a"
    · subst a
      exact .some ⟨rfl, .told (by grind)⟩
    by_cases b : id = "b"
    · subst b
      exact .some ⟨rfl, .told (by grind)⟩
    by_cases c : id = "c"
    · subst c
      exact .some ⟨rfl, .told (by grind)⟩
    · simp [lastAdded?, replaced, shuffled, List.lookup_cons, beq_false_of_ne a,
        beq_false_of_ne b, beq_false_of_ne c]
  exact ⟨alike, by cbv, sort_ofList_eq alike⟩

end DependencyGraph

end TopoPlan
