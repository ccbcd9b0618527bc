import TopoPlan.Error
import TopoPlan.Text.Table

/-!
# Sorting by dependency

A depth-first search that lists every vertex of a graph after the vertices that it
depends on.  Vertices are visited in the order of their ids, and so are the
dependencies of each, so the result depends only on the content of the graph.  The
search stops at the first cycle, at the first dependency that is not in the graph,
or at the first vertex whose dependencies cannot be told.
-/

namespace TopoPlan

/-- A vertex of a dependency graph. -/
structure Vertex (α : Type) where
  item : α
  /-- The ids that the vertex depends on. -/
  dependencies : Except CompileError (List String)

/-- Vertices by id. -/
abbrev DependencyGraph (α : Type) := Table (Vertex α)

namespace DependencyGraph

/-- The graph of vertices with their ids; a later vertex replaces an earlier one of
the same id. -/
def ofList {α : Type} (vertices : List (String × Vertex α)) : DependencyGraph α :=
  Table.setAll {} vertices

/-- The order in which dependencies are visited. -/
def visitOrder (dependencies : List String) : List String :=
  dependencies.mergeSort fun left right => decide (left <= right)

/-- Add a vertex and everything that it depends on to the ids listed so far.  The
path leads from a root to the vertex; it never repeats an id, so `steps` above the
number of vertices is never used up. -/
def visit {α : Type} (graph : DependencyGraph α) :
    (steps : Nat) -> (path listed : List String) -> String -> Except CompileError (List String)
  | 0, _, listed, _ => .ok listed
  | steps + 1, path, listed, id =>
    if listed.contains id then .ok listed
    else if path.contains id then
      .error (.cycle (path.dropWhile (· != id) ++ [id]))
    else
      match graph[id]? with
      | none => .ok listed
      | some vertex =>
        match vertex.dependencies with
        | .error error => .error error
        | .ok dependencies =>
          let visited := (visitOrder dependencies).foldlM
            (fun listed dependency =>
              if graph.contains dependency then
                visit graph steps (path ++ [id]) listed dependency
              else .error (.unresolvedDependency dependency id)) listed
          visited.map (· ++ [id])

/-- The ids of a graph, each after the ids that it depends on. -/
def sortIds {α : Type} (graph : DependencyGraph α) : Except CompileError (List String) := do
  let listed <- graph.keys.foldlM (visit graph (graph.size + 1) []) []
  if listed.length = graph.size then pure listed
  else throw (.incompleteSort listed.length graph.size)

/-- The items of a graph, each after the items that it depends on. -/
def sort {α : Type} (graph : DependencyGraph α) : Except CompileError (List α) :=
  graph.sortIds.map fun ids => ids.filterMap fun id => graph[id]?.map (·.item)

end DependencyGraph

end TopoPlan
