import Mathlib.Data.List.Chain
import TopoPlan.Proofs.Dependency.Order

/-!
# Errors of a sort

A sort fails with a cycle of the graph, with a dependency that is missing in it, or with
what a vertex tells instead of its dependencies: `failsWith_of_sort`.  The path of the
search is a chain of dependencies without repetition, so the part of it that is reported
goes round once.  In a graph whose dependencies can be told every error is `Genuine`, which
is the main statement, `genuine_of_sort`.
-/

namespace TopoPlan.DependencyGraph

variable {α : Type}

section Errors

variable (graph : DependencyGraph α)

/-- A way round: each id depends on the next one, and only the first id comes twice, as the
last one. -/
structure ClosedChain (path : List String) : Prop where
  long : 2 ≤ path.length
  closed : path.head? = path.getLast?
  once : path.dropLast.Nodup
  chain : path.IsChain graph.Depends

/-- A sort may fail with an error. -/
inductive FailsWith : CompileError → Prop where
  | cycle (path : List String) (closed : graph.ClosedChain path) : FailsWith (.cycle path)
  | missing (id dependency : String) (depends : graph.Depends id dependency)
      (absent : dependency ∉ graph) : FailsWith (.unresolvedDependency dependency id)
  | untold (id : String) (vertex : Vertex α) (found : graph[id]? = some vertex)
      (error : CompileError) (tells : vertex.dependencies = .error error) : FailsWith error

/-- An error says what is wrong with the graph: a way round, or an id of the graph that
depends on one that is not in it. -/
def Genuine : CompileError → Prop
  | .cycle path => graph.ClosedChain path
  | .unresolvedDependency dependency id =>
    id ∈ graph ∧ graph.Depends id dependency ∧ dependency ∉ graph
  | _ => False

end Errors

variable {graph : DependencyGraph α} {steps : Nat} {path listed : List String} {id : String}
  {error : CompileError}

/-- The part of a path from an id on, closed by the id. -/
theorem closedChain_of_mem (once : path.Nodup) (chain : (path ++ [id]).IsChain graph.Depends)
    (onPath : id ∈ path) : graph.ClosedChain (path.dropWhile (· != id) ++ [id]) := by
  obtain ⟨before, after, rfl, earlier⟩ := List.eq_append_cons_of_mem onPath
  have cut : (before ++ id :: after).dropWhile (· != id) = id :: after := by
    have others : ∀ other ∈ before, (other != id) = true := fun other member =>
      bne_iff_ne.mpr fun same => earlier (same ▸ member)
    rw [List.dropWhile_append_of_pos others, List.dropWhile_cons_of_neg (by simp)]
  rw [cut]
  rw [List.append_assoc] at chain
  exact
    { long := by simp
      closed := by
        rw [List.getLast?_concat]
        rfl
      once := by
        rw [List.dropLast_concat]
        exact once.sublist (List.sublist_append_right before _)
      chain := (List.isChain_append.mp chain).2.1 }

/-- All ids of a way round are ids of the graph, since each of them depends on another one. -/
theorem ClosedChain.mem (closed : graph.ClosedChain path) (listed : id ∈ path) : id ∈ graph := by
  have follows := List.isChain_iff_getElem.mp closed.chain
  obtain ⟨position, below, rfl⟩ := List.mem_iff_getElem.mp listed
  by_cases later : position + 1 < path.length
  · exact mem_of_depends (follows position later)
  · -- The last id is the first one.
    have long := closed.long
    have last : path[position]? = path[0]? := by
      rw [← List.head?_eq_getElem?, closed.closed, List.getLast?_eq_getElem?]
      congr 1
      omega
    rw [List.getElem?_eq_getElem below, List.getElem?_eq_getElem (by omega)] at last
    rw [Option.some.inj last]
    exact mem_of_depends (follows 0 long)

/-- A visit at the end of a chain of dependencies fails for a reason. -/
theorem failsWith_of_visit (once : path.Nodup) (chain : (path ++ [id]).IsChain graph.Depends)
    (failed : visit graph steps path listed id = .error error) : graph.FailsWith error := by
  induction steps generalizing path listed id with
  | zero => cases failed
  | succ steps inductionHypothesis =>
    unfold visit at failed
    split at failed
    case isTrue => cases failed
    case isFalse =>
      split at failed
      case isTrue onPath =>
        cases failed
        exact .cycle _ (closedChain_of_mem once chain (List.contains_iff_mem.mp onPath))
      case isFalse offPath =>
        rw [List.contains_iff_mem] at offPath
        split at failed
        case h_1 => cases failed
        case h_2 vertex found =>
          split at failed
          case h_1 told tells =>
            cases failed
            exact .untold id vertex found _ tells
          case h_2 dependencies told =>
            obtain ⟨dependency, member, current, failed⟩ :=
              Outcome.exists_step_of_foldlM_eq_error (Outcome.map_eq_error.mp failed)
            have depends : graph.Depends id dependency :=
              (depends_iff found told).mpr (mem_visitOrder.mp member)
            split at failed
            case isTrue =>
              refine inductionHypothesis ?_ ?_ failed
              · rw [← List.concat_eq_append]
                exact .concat offPath once
              · refine List.isChain_append.mpr ⟨chain, List.isChain_singleton dependency, ?_⟩
                simpa using depends
            case isFalse absent =>
              cases failed
              exact .missing id dependency depends
                fun known => absent (Std.ExtTreeMap.contains_iff_mem.mpr known)

/-- A sort fails for a reason, and is never incomplete. -/
theorem failsWith_of_sort (failed : graph.sort = .error error) : graph.FailsWith error := by
  rcases Outcome.bind_eq_error.mp (Outcome.map_eq_error.mp failed) with visits | ⟨ids, run, short⟩
  · obtain ⟨id, _, listed, failed⟩ := Outcome.exists_step_of_foldlM_eq_error visits
    exact failsWith_of_visit List.nodup_nil (List.isChain_singleton id) failed
  · rw [if_pos (length_of_foldlM run)] at short
    cases short

/-- In a graph whose dependencies can be told a sort fails with a way round or with an id
that depends on a missing one, and with nothing else. -/
theorem genuine_of_sort (told : graph.Told) (failed : graph.sort = .error error) :
    graph.Genuine error := by
  cases failsWith_of_sort failed with
  | cycle path closed => exact closed
  | missing id dependency depends absent => exact ⟨mem_of_depends depends, depends, absent⟩
  | untold id vertex found _ tells =>
    obtain ⟨dependencies, same⟩ := told id vertex found
    cases tells.symm.trans same

/-- Two ids that depend on each other, reached after another branch was done. -/
def roundabout : DependencyGraph Nat :=
  ofList
    [("a", ⟨0, .ok ["c", "b"]⟩), ("b", ⟨1, .ok []⟩), ("c", ⟨2, .ok ["d", "b"]⟩),
      ("d", ⟨3, .ok ["b", "c", "e"]⟩), ("e", ⟨4, .ok ["f"]⟩)]

/-- The way round does not have the root from which it is reached. -/
theorem genuine_of_sort_roundabout :
    roundabout.Told ∧ roundabout.sort = .error (.cycle ["c", "d", "c"]) ∧
      roundabout.Genuine (.cycle ["c", "d", "c"]) := by
  have told : roundabout.Told := told_ofList (by simp)
  have failed : roundabout.sort = .error (.cycle ["c", "d", "c"]) := by cbv
  exact ⟨told, failed, genuine_of_sort told failed⟩

end TopoPlan.DependencyGraph
