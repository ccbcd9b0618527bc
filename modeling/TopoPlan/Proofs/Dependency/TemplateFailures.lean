import TopoPlan.Network.Templates
import TopoPlan.Proofs.Dependency.SortErrors
import TopoPlan.Proofs.Failures

/-!
# Failures of template orders

A cycle that a sort reports is one of ids of the graph.  The ids of templates are made of
their positions, so the order of templates fails with reported errors only.
-/

namespace TopoPlan

namespace DependencyGraph

open Outcome

variable {α : Type} {graph : DependencyGraph α}
  (told : ∀ (id : String) vertex, graph[id]? = some vertex → Reports vertex.dependencies)
  (named : ∀ id ∈ graph, ∃ position, id = Template.positionId position)

include told named

/-- A sort tells a cycle of ids of the graph, a missing dependency, or what the dependencies
of a vertex tell. -/
theorem reports_sort : Reports graph.sort := by
  intro error failed
  cases failsWith_of_sort failed with
  | cycle path closed =>
    exact ⟨List.ne_nil_of_length_pos (Nat.lt_of_lt_of_le Nat.two_pos closed.long),
      fun id listed => named id (closed.mem listed)⟩
  | missing => trivial
  | untold id vertex found _ tells => exact told id vertex found error tells

end DependencyGraph

namespace TemplateOrder

open Outcome

/-- Looking for the templates before another one reports its errors. -/
theorem reports_before {templates : List Template} {template : Template} {position : Nat} :
    Reports (before templates template position) := by
  refine reports_bind (reports_mapM fun name _ => ?_) fun _ _ => reports_pure _
  unfold namedBefore
  split
  · exact reports_error trivial
  · exact reports_ok _

/-- Templates have no order when they depend on each other in a circle or on a template
that there is not. -/
theorem reports_order {templates : List Template} : Reports (order templates) := by
  refine DependencyGraph.reports_sort (fun id vertex found => ?_) fun id inside => ?_
  · obtain ⟨entry, _, same⟩ := List.mem_map.mp (DependencyGraph.mem_of_getElem?_ofList found)
    cases same
    exact reports_before
  · obtain ⟨vertex, found⟩ :=
      Option.isSome_iff_exists.mp (Std.ExtTreeMap.mem_iff_isSome_getElem?.mp inside)
    obtain ⟨entry, _, same⟩ := List.mem_map.mp (DependencyGraph.mem_of_getElem?_ofList found)
    cases same
    exact ⟨entry.2, rfl⟩

end TemplateOrder

namespace TemplateIndex

open Outcome

variable {config : Config}

/-- Ordering the templates of a configuration reports its errors. -/
theorem reports_ofConfig : Reports (ofConfig config) := by
  refine reports_bind (reports_mapM fun kind _ => ?_) fun _ _ => reports_pure _
  refine reports_bind ?_ fun _ _ => reports_pure _
  exact reports_bind TemplateOrder.reports_order fun _ _ => reports_pure _

/-- Listing the templates of an object reports its errors. -/
theorem reports_templates {index : TemplateIndex} {network : Network} {scope : Scope} :
    Reports (index.templates network config scope) := by
  unfold templates
  split
  · exact reports_map TemplateOrder.reports_order
  · exact reports_map TemplateOrder.reports_order
  · exact reports_ok _

end TemplateIndex

end TopoPlan
