import Mathlib
import TopoPlan.Proofs.Address.Digits
import TopoPlan.Proofs.Dependency.NumberedGraphs
import TopoPlan.Proofs.Text.Cutting
import TopoPlan.TemplateOrder

/-!
# The order of templates

The ids of templates are made of their positions, so what a sort promises of ids it
promises of positions.  The main statement, `exists_order_iff`, says when templates have
an order and what the order is.
-/

namespace TopoPlan

/-- Different positions have different names in the graph. -/
theorem Template.positionId_inj : Function.Injective Template.positionId :=
  fun _ _ same => Numeral.text_inj (Text.append_inj_right same)

namespace TemplateOrder

open DependencyGraph Outcome

/-- A template lists the name of another one, or follows the group of another one. -/
def Follows (templates : List Template) (position earlier : Nat) : Prop :=
  ∃ template other, templates[position]? = some template ∧ templates[earlier]? = some other ∧
    ((other.name ≠ "" ∧ other.name ∈ template.depends) ∨
      (template.isSortStyle = true ∧ earlier ≠ position ∧ other.group ≠ "" ∧
        other.group = template.sortGroup))

/-- Every name that a template lists is the name of a template. -/
def Resolved (templates : List Template) : Prop :=
  ∀ template ∈ templates, ∀ name ∈ template.depends,
    name ≠ "" ∧ ∃ other ∈ templates, other.name = name

/-- All positions, each once and after those of the templates that it follows. -/
structure Arranged (templates : List Template) (arranged : List Nat) : Prop where
  complete : arranged.Perm (List.range templates.length)
  ordered : ∀ position earlier, Follows templates position earlier →
    Precedes arranged earlier position

namespace Arranged

variable {templates : List Template} {arranged : List Nat} (sorted : Arranged templates arranged)

include sorted

/-- No template is arranged twice. -/
theorem once : arranged.Nodup :=
  sorted.complete.nodup_iff.mpr List.nodup_range

/-- Arranging templates lists exactly their positions. -/
theorem mem_iff {position : Nat} : position ∈ arranged ↔ position < templates.length := by
  rw [sorted.complete.mem_iff, List.mem_range]

/-- A template also comes after those that it follows through others. -/
theorem precedes_of_transGen {position earlier : Nat}
    (follows : Relation.TransGen (Follows templates) position earlier) :
    Precedes arranged earlier position := by
  induction follows with
  | single follows => exact sorted.ordered _ _ follows
  | tail _ follows inductionHypothesis =>
    exact (sorted.ordered _ _ follows).trans sorted.once inductionHypothesis

end Arranged

section Before

variable {templates : List Template} {template : Template} {position earlier : Nat} {name : String}

/-- The positions of templates that pass a test. -/
theorem mem_positions {test : Template → Bool} :
    position ∈ positions templates test ↔
      ∃ template, templates[position]? = some template ∧ test template = true := by
  simp [positions, List.mk_mem_zipIdx_iff_getElem?]

/-- The templates of a group come before the one that is sorted after the group. -/
theorem mem_groupBefore :
    earlier ∈ groupBefore templates template position ↔
      template.isSortStyle = true ∧ earlier ≠ position ∧ ∃ other,
        templates[earlier]? = some other ∧ other.group ≠ "" ∧ other.group = template.sortGroup := by
  unfold groupBefore
  split
  case isTrue asks =>
    simp only [Bool.and_eq_true, Bool.not_eq_true', String.isEmpty_eq_false_iff] at asks
    rw [List.mem_filter, mem_positions]
    constructor
    · rintro ⟨⟨other, listed, same⟩, apart⟩
      rw [beq_iff_eq] at same
      exact ⟨asks.1, bne_iff_ne.mp apart, other, listed, same ▸ asks.2, same⟩
    · rintro ⟨_, apart, other, listed, _, same⟩
      exact ⟨⟨other, listed, beq_iff_eq.mpr same⟩, bne_iff_ne.mpr apart⟩
  case isFalse idle =>
    refine iff_of_false List.not_mem_nil ?_
    rintro ⟨style, _, other, _, named, same⟩
    refine idle ?_
    rw [style, Bool.true_and, Bool.not_eq_true', String.isEmpty_eq_false_iff, ← same]
    exact named

/-- The positions of the templates of a name, if there are any. -/
theorem namedBefore_eq_ok {found : List Nat} :
    namedBefore templates template position name = .ok found ↔
      found ≠ [] ∧ found = if name.isEmpty then [] else positions templates (·.name == name) := by
  unfold namedBefore
  split
  case h_1 missing =>
    rw [missing]
    exact iff_of_false (fun same => nomatch same) fun ⟨any, same⟩ => any same
  case h_2 any =>
    constructor
    · rintro ⟨⟩
      exact ⟨any, rfl⟩
    · rintro ⟨_, rfl⟩
      rfl

/-- The templates of a name come before the one that asks for the name. -/
theorem mem_of_namedBefore {found : List Nat}
    (run : namedBefore templates template position name = .ok found) :
    earlier ∈ found ↔
      ∃ other, templates[earlier]? = some other ∧ other.name ≠ "" ∧ other.name = name := by
  obtain ⟨any, rfl⟩ := namedBefore_eq_ok.mp run
  split at any
  case isTrue => exact absurd rfl any
  case isFalse named =>
    rw [if_neg named, mem_positions]
    rw [String.isEmpty_iff] at named
    simp only [beq_iff_eq]
    constructor
    · rintro ⟨other, listed, rfl⟩
      exact ⟨other, listed, named, rfl⟩
    · rintro ⟨other, listed, _, same⟩
      exact ⟨other, listed, same⟩

/-- A name that is listed must be the name of a template. -/
theorem exists_namedBefore_iff :
    (∃ found, namedBefore templates template position name = .ok found) ↔
      name ≠ "" ∧ ∃ other ∈ templates, other.name = name := by
  constructor
  · rintro ⟨found, run⟩
    obtain ⟨earlier, listed⟩ := List.exists_mem_of_ne_nil _ (namedBefore_eq_ok.mp run).1
    obtain ⟨other, found, named, same⟩ := (mem_of_namedBefore run).mp listed
    exact ⟨same ▸ named, other, List.mem_of_getElem? found, same⟩
  · rintro ⟨named, other, listed, same⟩
    obtain ⟨earlier, found⟩ := List.mem_iff_getElem?.mp listed
    have inside : earlier ∈ positions templates (·.name == name) :=
      mem_positions.mpr ⟨other, found, beq_iff_eq.mpr same⟩
    refine ⟨_, namedBefore_eq_ok.mpr ⟨List.ne_nil_of_mem inside, ?_⟩⟩
    rw [if_neg (by rwa [String.isEmpty_iff])]

/-- What comes before a template can be told when every name that it lists is one of a
template. -/
theorem exists_before_iff :
    (∃ ids, before templates template position = .ok ids) ↔
      ∀ name ∈ template.depends, name ≠ "" ∧ ∃ other ∈ templates, other.name = name := by
  constructor
  · rintro ⟨ids, run⟩ name listed
    obtain ⟨named, mapped, _⟩ := bind_eq_ok.mp run
    exact exists_namedBefore_iff.mp (exists_of_mapM mapped name listed)
  · intro each
    have found : ∀ name ∈ template.depends,
        ∃ found, namedBefore templates template position name = .ok found :=
      fun name listed => exists_namedBefore_iff.mpr (each name listed)
    obtain ⟨named, mapped⟩ := exists_mapM found
    exact ⟨_, bind_eq_ok.mpr ⟨named, mapped, rfl⟩⟩

/-- The ids of the templates before one are those of the templates that it follows. -/
theorem mem_before {ids : List String} {id : String} (at? : templates[position]? = some template)
    (run : before templates template position = .ok ids) :
    id ∈ ids ↔
      ∃ earlier, Follows templates position earlier ∧ id = Template.positionId earlier := by
  obtain ⟨named, mapped, same⟩ := bind_eq_ok.mp run
  cases same
  have each (earlier : Nat) : earlier ∈ groupBefore templates template position ++ named.flatten ↔
      Follows templates position earlier := by
    rw [List.mem_append, mem_groupBefore, List.mem_flatten]
    constructor
    · rintro (⟨style, apart, other, listed, named, same⟩ | ⟨found, listed, inside⟩)
      · exact ⟨template, other, at?, listed, .inr ⟨style, apart, named, same⟩⟩
      · obtain ⟨name, asked, run⟩ := (mem_mapM_iff mapped).mp listed
        obtain ⟨other, found, named, rfl⟩ := (mem_of_namedBefore run).mp inside
        exact ⟨template, other, at?, found, .inl ⟨named, asked⟩⟩
    · rintro ⟨_, other, same, listed, ⟨named, asked⟩ | ⟨style, apart, named, group⟩⟩
      · cases at?.symm.trans same
        obtain ⟨found, run⟩ := exists_of_mapM mapped other.name asked
        exact .inr ⟨found, (mem_mapM_iff mapped).mpr ⟨other.name, asked, run⟩,
          (mem_of_namedBefore run).mpr ⟨other, listed, named, rfl⟩⟩
      · cases at?.symm.trans same
        exact .inl ⟨style, apart, other, listed, named, group⟩
  simp only [List.mem_map, each, eq_comm]

end Before

section Graph

variable {templates : List Template}

/-- The vertex of a template. -/
def vertexOf (templates : List Template) (template : Template) (position : Nat) : Vertex Nat :=
  { item := position, dependencies := before templates template position }

/-- The vertex of a position is that of its template. -/
theorem getElem?_graph {template : Template} {position : Nat}
    (listed : templates[position]? = some template) :
    (graph templates)[Template.positionId position]? =
      some (vertexOf templates template position) :=
  getElem?_numbered (vertexOf templates) Template.positionId_inj listed

/-- Every vertex is the one of a template. -/
theorem exists_entry_of_graph {id : String} {found : Vertex Nat}
    (look : (graph templates)[id]? = some found) :
    ∃ position template, templates[position]? = some template ∧
      id = Template.positionId position ∧ found = vertexOf templates template position :=
  exists_entry_of_numbered (vertexOf templates) look

/-- The graph can be told when no name is missing. -/
theorem told_graph_iff : (graph templates).Told ↔ Resolved templates := by
  constructor
  · intro told template listed
    obtain ⟨position, found⟩ := List.mem_iff_getElem?.mp listed
    exact exists_before_iff.mp (told _ _ (getElem?_graph found))
  · intro resolved id vertex look
    obtain ⟨position, template, listed, _, rfl⟩ := exists_entry_of_graph look
    exact exists_before_iff.mpr (resolved template (List.mem_of_getElem? listed))

/-- The dependencies of a graph that can be told are those of the templates. -/
theorem depends_iff (told : (graph templates).Told) {id dependency : String} :
    (graph templates).Depends id dependency ↔
      ∃ position earlier, id = Template.positionId position ∧
        dependency = Template.positionId earlier ∧ Follows templates position earlier := by
  constructor
  · rintro ⟨vertex, ids, look, told, member⟩
    obtain ⟨position, template, listed, rfl, rfl⟩ := exists_entry_of_graph look
    obtain ⟨earlier, follows, rfl⟩ := (mem_before listed told).mp member
    exact ⟨position, earlier, rfl, rfl, follows⟩
  · rintro ⟨position, earlier, rfl, rfl, follows⟩
    obtain ⟨template, _, listed, _⟩ := id follows
    obtain ⟨ids, run⟩ := told _ _ (getElem?_graph listed)
    exact ⟨_, ids, getElem?_graph listed, run, (mem_before listed run).mpr ⟨earlier, follows, rfl⟩⟩

/-- All that templates follow are templates of the list. -/
theorem closed_graph (told : (graph templates).Told) : (graph templates).Closed := by
  intro id dependency depends
  obtain ⟨_, earlier, rfl, rfl, _, other, _, listed, _⟩ := (depends_iff told).mp depends
  exact (mem_numbered (vertexOf templates) Template.positionId_inj).mpr
    (List.getElem?_eq_some_iff.mp listed).1

/-- Ids depend on each other through others as the templates do. -/
theorem transGen_depends_iff (told : (graph templates).Told) {position earlier : Nat} :
    Relation.TransGen (graph templates).Depends (Template.positionId position)
        (Template.positionId earlier) ↔
      Relation.TransGen (Follows templates) position earlier := by
  constructor
  · intro depends
    have general : ∀ id, Relation.TransGen (graph templates).Depends
        (Template.positionId position) id → ∃ earlier, id = Template.positionId earlier ∧
          Relation.TransGen (Follows templates) position earlier := by
      intro id depends
      induction depends with
      | single depends =>
        obtain ⟨first, second, same, rfl, follows⟩ := (depends_iff told).mp depends
        cases Template.positionId_inj same
        exact ⟨second, rfl, .single follows⟩
      | tail _ depends inductionHypothesis =>
        obtain ⟨between, rfl, earlier⟩ := inductionHypothesis
        obtain ⟨first, second, same, rfl, follows⟩ := (depends_iff told).mp depends
        cases Template.positionId_inj same
        exact ⟨second, rfl, earlier.tail follows⟩
    obtain ⟨other, same, follows⟩ := general _ depends
    cases Template.positionId_inj same
    exact follows
  · intro follows
    refine Relation.TransGen.lift Template.positionId (fun first second follows => ?_) _ _ follows
    exact (depends_iff told).mpr ⟨first, second, rfl, rfl, follows⟩

/-- The graph has no cycle when the templates do not. -/
theorem acyclic_graph_iff (told : (graph templates).Told) :
    (graph templates).Acyclic ↔
      ∀ position, ¬ Relation.TransGen (Follows templates) position position := by
  constructor
  · exact fun acyclic position cycle => acyclic _ ((transGen_depends_iff told).mpr cycle)
  · intro acyclic id cycle
    obtain ⟨_, depends, _⟩ := Relation.TransGen.head'_iff.mp cycle
    obtain ⟨position, _, rfl, _⟩ := (depends_iff told).mp depends
    exact acyclic position ((transGen_depends_iff told).mp cycle)

/-- The positions that an order gives are those of the ids of a dependency order. -/
theorem arranged_of_order {arranged : List Nat} (run : order templates = .ok arranged) :
    Arranged templates arranged := by
  have told := told_of_sort run
  obtain ⟨ids, dependencyOrder, itemsOf⟩ := exists_order_of_sort run
  have item (position : Nat) (below : position < templates.length) :
      (graph templates)[Template.positionId position]?.map (·.item) = some position := by
    rw [getElem?_graph (List.getElem?_eq_getElem below)]
    rfl
  have items := itemsOf.eq_filterMap
  constructor
  · have numbers := DependencyOrder.perm_numbers (vertexOf templates)
      Template.positionId_inj dependencyOrder
    rw [items]
    refine (numbers.filterMap _).trans (.of_eq ?_)
    rw [List.filterMap_map]
    refine (List.filterMap_congr fun position listed => ?_).trans List.filterMap_some
    exact item position (List.mem_range.mp listed)
  · intro position earlier follows
    obtain ⟨template, other, listed, earlierListed, _⟩ := id follows
    rw [items]
    refine (dependencyOrder.ordered _ _
      ((depends_iff told).mpr ⟨position, earlier, rfl, rfl, follows⟩)).filterMap ?_ ?_
    · exact item earlier (List.getElem?_eq_some_iff.mp earlierListed).1
    · exact item position (List.getElem?_eq_some_iff.mp listed).1

end Graph

/-- Templates have an order exactly when no name that they list is missing and no template
follows itself through others.  The order then has every position once, and after those of
all templates that the one there follows. -/
theorem exists_order_iff (templates : List Template) :
    ((∃ arranged, order templates = .ok arranged) ↔
        Resolved templates ∧
          ∀ position, ¬ Relation.TransGen (Follows templates) position position) ∧
      ∀ arranged, order templates = .ok arranged → Arranged templates arranged := by
  refine ⟨⟨?_, ?_⟩, fun arranged => arranged_of_order⟩
  · rintro ⟨arranged, run⟩
    have told := told_of_sort run
    obtain ⟨ids, dependencyOrder, _⟩ := exists_order_of_sort run
    exact ⟨told_graph_iff.mp told, (acyclic_graph_iff told).mp dependencyOrder.acyclic⟩
  · rintro ⟨resolved, acyclic⟩
    have told := told_graph_iff.mpr resolved
    exact exists_sort told (closed_graph told) ((acyclic_graph_iff told).mpr acyclic)

/-- Five templates: two share a name that another one lists, and the first one follows the
group of two others. -/
def stack : List Template :=
  [{ name := "all", style := Template.sortStyle, sortGroup := "base" },
    { depends := ["link"] }, { name := "link", group := "base", depends := ["host"] },
    { name := "host" }, { name := "host", group := "base" }]

/-- The first template follows one that it finds by group, which follows two of one name. -/
theorem exists_order_iff_stack :
    order stack = .ok [3, 4, 2, 0, 1] ∧ Follows stack 0 2 ∧ Follows stack 2 3 ∧
      Resolved stack ∧ (∀ position, ¬ Relation.TransGen (Follows stack) position position) ∧
        Arranged stack [3, 4, 2, 0, 1] := by
  have run : order stack = .ok [3, 4, 2, 0, 1] := by cbv
  have group : Follows stack 0 2 :=
    ⟨_, _, rfl, rfl, .inr ⟨by decide, by decide, by decide, by decide⟩⟩
  have name : Follows stack 2 3 := ⟨_, _, rfl, rfl, .inl ⟨by decide, by decide⟩⟩
  obtain ⟨succeeds, arranges⟩ := exists_order_iff stack
  obtain ⟨resolved, acyclic⟩ := succeeds.mp ⟨_, run⟩
  exact ⟨run, group, name, resolved, acyclic, arranges _ run⟩

end TemplateOrder

end TopoPlan
