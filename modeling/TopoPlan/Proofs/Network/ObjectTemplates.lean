import Mathlib
import TopoPlan.Network.Templates
import TopoPlan.Proofs.Config.Definitions
import TopoPlan.Proofs.Dependency.TemplateOrder

/-!
# Templates of objects

The templates of all classes of a kind are ordered once, and an object lists those of its
own classes.  What is left out does not change the order of what stays, so templates of
other classes still order those of the object.  The main statement is
`listsTemplates_of_ofConfig`.
-/

namespace TopoPlan

/-- Entries that give nothing may be left out. -/
theorem flatMap_filter_of_nil {α β : Type} {keep : α → Bool} {change : α → List β}
    {entries : List α} (empty : ∀ entry, keep entry = false → change entry = []) :
    (entries.filter keep).flatMap change = entries.flatMap change := by
  induction entries with
  | nil => rfl
  | cons entry rest inductionHypothesis =>
    rw [List.filter_cons, List.flatMap_cons]
    split
    case isTrue => rw [List.flatMap_cons, inductionHypothesis]
    case isFalse unkept =>
      rw [inductionHypothesis, empty entry (Bool.eq_false_iff.mpr unkept), List.nil_append]

/-- All positions of a list have its entries. -/
theorem filterMap_getElem?_perm {α : Type} {entries : List α} {positions : List Nat}
    (complete : positions.Perm (List.range entries.length)) :
    (positions.filterMap fun position => entries[position]?).Perm entries := by
  refine (complete.filterMap _).trans (.of_eq ?_)
  rw [List.range_eq_range', ← List.zipIdx_map_snd, List.filterMap_map]
  have each : ∀ entry ∈ entries.zipIdx, entries[entry.2]? = some entry.1 := fun entry listed =>
    List.mk_mem_zipIdx_iff_getElem?.mp listed
  refine (List.filterMap_congr each).trans ?_
  rw [List.filterMap_eq_map', List.zipIdx_map_fst]

namespace TemplateOrder

open Outcome

/-- The names of the templates at some positions. -/
def labelsAt (templates : List Template) (chosen : List Nat) : List String :=
  chosen.filterMap fun position => templates[position]?.map fun template => template.label position

/-- Names are those of all templates of a list, each once and in dependency order. -/
def Names (templates : List Template) (names : List String) : Prop :=
  ∃ arranged, Arranged templates arranged ∧ names = labelsAt templates arranged

/-- Labels that are found are the names of the templates, in their order. -/
theorem names_of_labels {templates : List Template} {names : List String}
    (run : labels templates = .ok names) : Names templates names := by
  obtain ⟨arranged, sorted, same⟩ := map_eq_ok.mp run
  exact ⟨arranged, arranged_of_order sorted, same.symm⟩

end TemplateOrder

namespace TemplateIndex

open Outcome TemplateOrder

/-- The templates of a class, each with the class. -/
def entriesOf (config : Config) (kind : ClassKind) (className : String) :
    List (String × Template) :=
  (config.templatesOf kind className).map fun template => (className, template)

/-- The templates of an object that has some classes, by their positions among the templates
of all classes of the kind: they are the templates of its classes, each once, and each
comes after those that it follows, be it through templates of other classes. -/
structure OwnTemplates (config : Config) (kind : ClassKind) (classes : List String)
    (chosen : List Nat) : Prop where
  once : chosen.Nodup
  mem_iff : ∀ position, position ∈ chosen ↔
    ∃ className template, (listed config kind)[position]? = some (className, template) ∧
      className ∈ classes
  templates : (chosen.filterMap fun position => (listed config kind)[position]?).Perm
    (classes.dedup.flatMap (entriesOf config kind))
  ordered : ∀ position ∈ chosen, ∀ earlier ∈ chosen,
    Relation.TransGen (Follows ((listed config kind).map (·.2))) position earlier →
      Precedes chosen earlier position

section Index

variable {config : Config} {index : TemplateIndex} {kind : ClassKind}

/-- An index has the templates of every kind in order. -/
theorem exists_lookup_of_ofConfig (run : ofConfig config = .ok index) (kind : ClassKind) :
    ∃ names, ordered config kind = .ok names ∧ index.ofKind.lookup kind = some names := by
  obtain ⟨ofKind, mapped, same⟩ := bind_eq_ok.mp run
  cases same
  have entry (kind : ClassKind) (names : List (String × String)) :
      (kind, names) ∈ ofKind ↔ ordered config kind = .ok names := by
    rw [mem_mapM_iff mapped]
    constructor
    · rintro ⟨other, _, run⟩
      obtain ⟨found, ordered, same⟩ := bind_eq_ok.mp run
      cases same
      exact ordered
    · intro ordered
      exact ⟨kind, by cases kind <;> decide, bind_eq_ok.mpr ⟨names, ordered, rfl⟩⟩
  obtain ⟨⟨other, names⟩, run⟩ := exists_of_mapM mapped kind (by cases kind <;> decide)
  obtain ⟨found, ordered, same⟩ := bind_eq_ok.mp run
  cases same
  have listed := (entry kind names).mpr ordered
  refine ⟨names, ordered, Table.lookup_of_mem listed fun found listed => ?_⟩
  have again := (entry kind found).mp listed
  rw [ordered] at again
  exact (Except.ok.inj again).symm

/-- The positions of the templates of some classes. -/
def chosen (config : Config) (kind : ClassKind) (classes : List String) (arranged : List Nat) :
    List Nat :=
  arranged.filter fun position =>
    (listed config kind)[position]?.any fun entry => classes.contains entry.1

variable {classes : List String} {arranged : List Nat}

/-- The chosen positions are the arranged ones of the classes that an object has. -/
theorem mem_chosen {position : Nat} :
    position ∈ chosen config kind classes arranged ↔ position ∈ arranged ∧
      ∃ className template, (listed config kind)[position]? = some (className, template) ∧
        className ∈ classes := by
  simp [chosen, Option.any_eq_true]

/-- An object lists the names of the templates of its classes. -/
theorem exists_ofClasses (run : ofConfig config = .ok index) (kind : ClassKind)
    (classes : List String) :
    ∃ arranged, Arranged ((listed config kind).map (·.2)) arranged ∧
      index.ofClasses kind classes =
        labelsAt ((listed config kind).map (·.2)) (chosen config kind classes arranged) := by
  obtain ⟨names, ordered, found⟩ := exists_lookup_of_ofConfig run kind
  obtain ⟨arranged, sorted, same⟩ := bind_eq_ok.mp ordered
  cases same
  refine ⟨arranged, arranged_of_order sorted, ?_⟩
  rw [ofClasses, found, Option.getD_some, List.filter_filterMap, List.map_filterMap, labelsAt,
    chosen, List.filterMap_filter]
  refine List.filterMap_congr fun position _ => ?_
  rw [List.getElem?_map]
  cases (listed config kind)[position]? with
  | none => rfl
  | some entry => by_cases own : entry.1 ∈ classes <;> simp [own]

/-- The templates of a kind are those of its classes, one class after the other. -/
theorem listed_eq_flatMap (valid : config.validate = .ok ()) (kind : ClassKind) :
    listed config kind =
      ((config.classTemplates kind).map (·.1)).flatMap (entriesOf config kind) := by
  rw [listed, List.flatMap_map]
  refine List.flatMap_congr fun entry member => ?_
  have only : ∀ templates, (entry.1, templates) ∈ config.classTemplates kind →
      templates = entry.2 := fun templates other => by
    have names := Config.classNames_nodup valid kind
    exact congrArg Prod.snd (List.inj_on_of_nodup_map names other member rfl)
  rw [entriesOf, Config.templatesOf, Table.lookup_of_mem member only, Option.getD_some]

/-- A class that is not defined has no templates. -/
theorem entriesOf_eq_nil {className : String}
    (unknown : className ∉ (config.classTemplates kind).map (·.1)) :
    entriesOf config kind className = [] := by
  have absent : (config.classTemplates kind).lookup className = none := by
    rw [List.lookup_eq_none_iff]
    intro entry member
    exact bne_iff_ne.mpr fun same => unknown (List.mem_map.mpr ⟨entry, member, same.symm⟩)
  rw [entriesOf, Config.templatesOf, absent]
  rfl

/-- The templates that some classes have among all of their kind are those of the classes. -/
theorem filter_listed_perm (valid : config.validate = .ok ()) (kind : ClassKind)
    (classes : List String) :
    ((listed config kind).filter fun entry => classes.contains entry.1).Perm
      (classes.dedup.flatMap (entriesOf config kind)) := by
  let defined := (config.classTemplates kind).map (·.1)
  have names : (defined.filter fun className => classes.contains className).Perm
      (classes.dedup.filter fun className => defined.contains className) := by
    refine (List.perm_ext_iff_of_nodup ((Config.classNames_nodup valid kind).filter _)
      (classes.nodup_dedup.filter _)).mpr fun className => ?_
    simp only [List.mem_filter, List.contains_iff_mem, List.mem_dedup, and_comm, defined]
  have own (className : String) :
      (entriesOf config kind className).filter (fun entry => classes.contains entry.1) =
        if classes.contains className then entriesOf config kind className else [] := by
    split
    case isTrue listed =>
      refine List.filter_eq_self.mpr fun entry member => ?_
      obtain ⟨_, _, rfl⟩ := List.mem_map.mp member
      exact listed
    case isFalse unlisted =>
      refine List.filter_eq_nil_iff.mpr fun entry member => ?_
      obtain ⟨_, _, rfl⟩ := List.mem_map.mp member
      exact unlisted
  have kept : (listed config kind).filter (fun entry => classes.contains entry.1) =
      (defined.filter fun className => classes.contains className).flatMap
        (entriesOf config kind) := by
    rw [listed_eq_flatMap valid, List.filter_flatMap, ← flatMap_filter_of_nil]
    · refine List.flatMap_congr fun className listed => ?_
      rw [own, if_pos (List.mem_filter.mp listed).2]
    · intro className unlisted
      rw [own, unlisted]
      rfl
  have known : classes.dedup.flatMap (entriesOf config kind) =
      (classes.dedup.filter fun className => defined.contains className).flatMap
        (entriesOf config kind) := by
    refine (flatMap_filter_of_nil fun className unknown => ?_).symm
    refine entriesOf_eq_nil fun defines => ?_
    rw [List.contains_iff_mem.mpr defines] at unknown
    cases unknown
  rw [kept, known]
  exact names.flatMap_right _

/-- The templates that an object lists are those of its classes. -/
theorem ownTemplates_chosen (valid : config.validate = .ok ())
    (sorted : Arranged ((listed config kind).map (·.2)) arranged) :
    OwnTemplates config kind classes (chosen config kind classes arranged) where
  once := sorted.once.filter _
  mem_iff position := by
    rw [mem_chosen]
    refine and_iff_right_of_imp ?_
    rintro ⟨className, template, found, _⟩
    rw [sorted.mem_iff, List.length_map]
    exact (List.getElem?_eq_some_iff.mp found).1
  templates := by
    refine .trans ?_ (filter_listed_perm valid kind classes)
    have complete := sorted.complete
    rw [List.length_map] at complete
    refine .trans (.of_eq ?_) ((filterMap_getElem?_perm complete).filter _)
    rw [chosen, List.filterMap_filter, List.filter_filterMap]
    refine List.filterMap_congr fun position _ => ?_
    cases (listed config kind)[position]? with
    | none => rfl
    | some entry => by_cases own : entry.1 ∈ classes <;> simp [own, Option.filter]
  ordered position own earlier ownEarlier follows := by
    refine (sorted.precedes_of_transGen follows).filter ?_ ?_
    · exact (List.mem_filter.mp ownEarlier).2
    · exact (List.mem_filter.mp own).2

end Index

section Declared

/-- The declarations of neighbors in a layer of the classes of an interface, and then of the
classes of its connection. -/
def neighborDeclarations (config : Config) (network : Network) (neighbor : Neighbor) :
    List NeighborClass :=
  let interface := network.interface neighbor.self
  let ofInterface :=
    (interface.classes.filterMap config.interfaceClass?).flatMap InterfaceClass.neighbors
  let ofConnection := interface.connection.elim [] fun id =>
    ((network.connection id).classes.filterMap config.connectionClass?).flatMap
      ConnectionClass.neighbors
  (ofInterface ++ ofConnection).filter (·.layer = neighbor.layer)

/-- A declaration applies to a class exactly when it specifies it. -/
theorem declares_iff {declared : MemberClass} {kind : ClassKind} {className : String} :
    declares declared kind className = true ↔ declared.Specifies kind className := by
  unfold declares MemberClass.Specifies
  cases declared.target with
  | error => simp
  | ok target => simp [Prod.ext_iff]

instance (declared : MemberClass) (kind : ClassKind) (className : String) :
    Decidable (declared.Specifies kind className) :=
  decidable_of_iff _ declares_iff

/-- The declarations of an object that name the class of one of its members. -/
def memberDeclarations (network : Network) (member : Member) : List MemberClass :=
  (memberClassesOf network member.referrer).filter (·.Specifies member.kind member.className)

variable (config : Config) (network : Network)

/-- The templates of a neighbor are those of its declarations, in their order. -/
theorem ofNeighbor_eq (neighbor : Neighbor) :
    ofNeighbor network config neighbor =
      (neighborDeclarations config network neighbor).flatMap (·.templates) := by
  have layer (declared : List NeighborClass) : ofNeighborClasses neighbor.layer declared =
      (declared.filter (·.layer = neighbor.layer)).flatMap (·.templates) := rfl
  unfold ofNeighbor neighborDeclarations
  dsimp only
  split
  case h_1 id link =>
    rw [link]
    simp only [layer, Option.elim_some, List.filter_append, List.filter_flatMap,
      List.flatMap_append, List.flatMap_assoc]
  case h_2 bare =>
    rw [bare]
    simp only [layer, Option.elim_none, List.append_nil, List.filter_flatMap, List.flatMap_assoc]

/-- The templates of a member are those of its declarations, in their order. -/
theorem ofMember_eq (member : Member) :
    ofMember network member = (memberDeclarations network member).flatMap (·.templates) := by
  unfold ofMember memberDeclarations
  refine congrArg (List.flatMap _) (List.filter_congr fun declared _ => ?_)
  rw [Bool.eq_iff_iff, decide_eq_true_iff]
  exact declares_iff

end Declared

/-- What the objects of a network list: the templates of their classes, and neighbors and
members the templates of the declarations that made them. -/
structure ListsTemplates (config : Config) (network : Network) (index : TemplateIndex) : Prop where
  objects : ∀ scope kind, scope.classKind? = some kind →
    ∃ own, OwnTemplates config kind (network.classesOf scope) own ∧
      index.templates network config scope =
        .ok (labelsAt ((listed config kind).map (·.2)) own)
  neighbors : ∀ id names, index.templates network config (.neighbor id) = .ok names →
    Names ((neighborDeclarations config network (network.neighbor id)).flatMap (·.templates)) names
  members : ∀ id names, index.templates network config (.member id) = .ok names →
    Names ((memberDeclarations network (network.member id)).flatMap (·.templates)) names

/-- With the index of a valid configuration, the objects of every network list exactly their
own templates, in an order that respects all that templates follow. -/
theorem listsTemplates_of_ofConfig {config : Config} (valid : config.validate = .ok ())
    {index : TemplateIndex} (run : ofConfig config = .ok index) (network : Network) :
    ListsTemplates config network index where
  objects scope kind ofKind := by
    obtain ⟨arranged, sorted, same⟩ := exists_ofClasses run kind (network.classesOf scope)
    refine ⟨_, ownTemplates_chosen valid sorted, ?_⟩
    rw [← same]
    cases scope <;> cases ofKind <;> rfl
  neighbors id names listed := by
    rw [← ofNeighbor_eq]
    exact names_of_labels listed
  members id names listed := by
    rw [← ofMember_eq]
    exact names_of_labels listed

end TemplateIndex

namespace Press

open TemplateIndex

/-- A template of one class follows one of another class through one of a third. -/
def config : Config where
  name := "press"
  layers := [{ name := "ip", connectsByDefault := true }]
  nodeClasses :=
    [{ name := "top", templates := [{ name := "roof", depends := ["wall"] }],
       members := [{ node := "base", templates := [{ depends := ["key"] }, { name := "key" }] }] },
     { name := "middle", templates := [{ name := "wall", depends := ["floor"] }] },
     { name := "base", templates := [{ name := "floor" }, { name := "floor" }] }]
  interfaceClasses :=
    [{ name := "port", neighbors := [{ layer := "ip", templates := [{ name := "peer" }] }] }]
  connectionClasses :=
    [{ name := "wire", neighbors := [{ layer := "ip", templates :=
        [{ style := Template.sortStyle, sortGroup := "all" }, { group := "all" }] }] }]

/-- A node with two of the classes, with an interface on a connection, one neighbor and one
member. -/
def network : Network where
  nodes :=
    #[{ name := "a", classes := ["top", "base"], interfaces := [0], members := [0]
        memberClasses :=
          [("top", { node := "base", templates := [{ depends := ["key"] }, { name := "key" }] })] }]
  interfaces := #[{ name := "eth0", node := 0, classes := ["port"], connection := some 0 }]
  connections := #[{ name := "c", source := 0, target := 0, classes := ["wire"] }]
  neighbors := #[{ layer := "ip", self := 0, peer := 0 }]
  members := #[{ kind := .node, className := "base", referrer := .node 0, member := .node 0 }]

def index : TemplateIndex := (ofConfig config).toOption.getD (.mk [])

/-- The node lists the floor before the roof although it has no wall. -/
theorem listsTemplates_of_press :
    config.validate = .ok () ∧ ofConfig config = .ok index ∧
      index.templates network config (.node 0) = .ok ["floor", "floor", "roof"] ∧
      index.templates network config (.neighbor 0) = .ok ["peer", "template_2", "template_1"] ∧
      index.templates network config (.member 0) = .ok ["key", "template_0"] ∧
      ListsTemplates config network index := by
  have valid : config.validate = .ok () := by decide +kernel
  have run : ofConfig config = .ok index := Outcome.eq_ok_of_isOk (TemplateIndex.mk []) (by cbv)
  exact ⟨valid, run, by cbv, by cbv, by cbv, listsTemplates_of_ofConfig valid run network⟩

end Press

end TopoPlan
