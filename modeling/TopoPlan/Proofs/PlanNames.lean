import TopoPlan.Proofs.ObjectNames

/-!
# Names in plans

The name of an interface is put together from the name of its node and its own one, and that of
a connection from the names of its ends.  A part of a name may contain what stands between the
parts, so there may be several ways to read a name, and then several objects that have it.  The
main statement, `identifies_of_compile`, says that there are no other reasons.
-/

namespace TopoPlan

/-- Kinds of objects with classes are told by their names. -/
theorem Scope.kind_eq_iff {scope : Scope} {kind : ClassKind} :
    scope.kind = kind.name ↔ scope.classKind? = some kind := by
  cases scope <;> cases kind <;> simp [Scope.kind, ClassKind.name, Scope.classKind?]

namespace Plan

/-- The objects of a kind and a name. -/
def namesakes (plan : Plan) (kind : ClassKind) (name : String) : List PlanObject :=
  plan.objects.filter fun object => object.kind == kind.name && object.name == name

/-- The objects of a kind whose names, with what separates parts of names, begin a name. -/
def beginnings (plan : Plan) (kind : ClassKind) (separator name : String) : List PlanObject :=
  plan.objects.filter fun object =>
    object.kind == kind.name && (Text.after? (object.name ++ separator) name).isSome

/-- In how many ways a name can be read as one of a kind: the name of an interface begins with
that of its node, and the name of a connection with that of its source. -/
def readings (plan : Plan) : ClassKind → String → Nat
  | .interface, name => (plan.beginnings .node "." name).length
  | .connection, name => (plan.beginnings .interface "--" name).length
  | _, _ => 1

/-- Objects are identified by their kinds and names, as far as names can be read in one way.
This is not about groups, whose names are not checked. -/
structure Identifies (plan : Plan) : Prop where
  /-- No more objects have a name than there are ways to read it. -/
  namesakes : ∀ kind : ClassKind, kind ≠ .group → ∀ name,
    (plan.namesakes kind name).length ≤ plan.readings kind name
  /-- An object whose name is read in one way is found, and so are its parameters. -/
  found : ∀ object ∈ plan.objects, ∀ kind : ClassKind, kind ≠ .group → object.kind = kind.name →
    plan.readings kind object.name ≤ 1 →
      plan.object? kind.name object.name = some object ∧
        ∀ key, plan.param? kind.name object.name key = object.params[key]?
  /-- Names of interfaces are read in one way if no node has a point in its name. -/
  interfaces : (∀ object ∈ plan.objects, object.kind = ClassKind.node.name →
    '.' ∉ object.name.toList) → ∀ name, plan.readings .interface name ≤ 1
  /-- Names of connections are read in one way if no interface has a dash in its name either. -/
  connections : (∀ object ∈ plan.objects, object.kind = ClassKind.node.name →
    '.' ∉ object.name.toList) → (∀ object ∈ plan.objects,
      object.kind = ClassKind.interface.name → '-' ∉ object.name.toList) →
        ∀ name, plan.readings .connection name ≤ 1

/-! ## Lists of objects -/

section Lists

variable {plan : Plan} {kind : ClassKind}

/-- Different entries with different images among others are no more than these. -/
theorem length_le_of_image {α β : Type} {entries : List α} {others : List β}
    (once : entries.Nodup) (image : α → β) (into : ∀ entry ∈ entries, image entry ∈ others)
    (different : ∀ left ∈ entries, ∀ right ∈ entries, image left = image right → left = right) :
    entries.length ≤ others.length := by
  have images : (entries.map image).Nodup :=
    once.map_on fun left first right second same => different left first right second same
  have inside : entries.map image ⊆ others := by
    intro _ listed
    obtain ⟨entry, member, rfl⟩ := List.mem_map.mp listed
    exact into entry member
  calc entries.length = (entries.map image).length := (List.length_map _).symm
    _ ≤ others.length := (List.subperm_of_subset images inside).length_le

/-- An object without namesakes is found. -/
theorem object?_of_namesakes {object : PlanObject} (listed : object ∈ plan.objects)
    (ofKind : object.kind = kind.name) (single : (plan.namesakes kind object.name).length ≤ 1) :
    plan.object? kind.name object.name = some object := by
  have member : object ∈ plan.namesakes kind object.name :=
    List.mem_filter.mpr ⟨listed, by simp [ofKind]⟩
  obtain ⟨only, same⟩ := List.length_eq_one_iff.mp
    (Nat.le_antisymm single (List.length_pos_of_mem member))
  rw [same, List.mem_singleton] at member
  rw [object?, ← List.head?_filter]
  change (plan.namesakes kind object.name).head? = some object
  rw [same, member]
  rfl

/-- Names without a separator that begin one name are the same. -/
theorem length_beginnings_le_one (separator : Char) (rest : String)
    (plain : ∀ object ∈ plan.objects, object.kind = kind.name → separator ∉ object.name.toList)
    (single : ∀ name, (plan.namesakes kind name).length ≤ 1) (name : String) :
    (plan.beginnings kind (String.singleton separator ++ rest) name).length ≤ 1 := by
  have cut : ∀ object ∈ plan.beginnings kind (String.singleton separator ++ rest) name,
      ∃ after, Text.cutOnce separator name = some (object.name, after) := by
    intro object listed
    obtain ⟨listed, begins⟩ := List.mem_filter.mp listed
    rw [Bool.and_eq_true, beq_iff_eq] at begins
    obtain ⟨after, found⟩ := Option.isSome_iff_exists.mp begins.2
    refine ⟨rest ++ after, ?_⟩
    rw [Text.eq_append_of_after? found, String.append_assoc, String.append_assoc,
      ← String.append_assoc]
    exact Text.cutOnce_append separator (plain object listed begins.1) _
  cases same : plan.beginnings kind (String.singleton separator ++ rest) name with
  | nil => exact Nat.zero_le 1
  | cons first others =>
    obtain ⟨_, firstCut⟩ := cut first (same ▸ List.mem_cons_self)
    rw [← same]
    refine Nat.le_trans ?_ (single first.name)
    unfold beginnings namesakes
    rw [← List.countP_eq_length_filter, ← List.countP_eq_length_filter]
    refine List.countP_mono_left fun object listed begins => ?_
    obtain ⟨_, objectCut⟩ := cut object (List.mem_filter.mpr ⟨listed, begins⟩)
    have name : object.name = first.name :=
      congrArg Prod.fst (Option.some.inj (objectCut.symm.trans firstCut))
    rw [Bool.and_eq_true] at begins ⊢
    exact ⟨begins.1, beq_iff_eq.mpr name⟩

end Lists

/-! ## Objects of the network -/

section Titles

variable {config : Config} {network : Network} {kind : ClassKind} {name : String}

/-- An object of a plan has the kind and the name of an object of a network. -/
structure TitledAs (config : Config) (network : Network) (scope : Scope) (object : PlanObject) :
    Prop where
  kind : object.kind = scope.kind
  name : object.name = nameOf config network scope

/-- The objects of a network that have a name in a plan. -/
def called (config : Config) (network : Network) (kind : ClassKind) (name : String) :
    List Scope :=
  network.scopes.filter fun scope =>
    scope.kind == kind.name && nameOf config network scope == name

/-- The objects of a network whose names in a plan begin a name. -/
def beginning (config : Config) (network : Network) (kind : ClassKind)
    (separator name : String) : List Scope :=
  network.scopes.filter fun scope =>
    scope.kind == kind.name && (Text.after? (nameOf config network scope ++ separator) name).isSome

/-- The object whose name the name of an object begins with: the node of an interface, and the
source of a connection. -/
def nameBearer (network : Network) : Scope → Scope
  | .interface id => .node (network.interface id).node
  | .connection id => .interface (network.connection id).source
  | scope => scope

section Counts

variable {plan : Plan} {order : List Scope}
  (titled : List.Forall₂ (TitledAs config network) order plan.objects)
  (perm : order.Perm network.scopes)

include titled perm

/-- Objects of a plan are counted as the objects of the network. -/
theorem length_filter_objects (holds : String → String → Bool) :
    (plan.objects.filter fun object => holds object.kind object.name).length =
      (network.scopes.filter fun scope =>
        holds scope.kind (nameOf config network scope)).length := by
  rw [← (perm.filter _).length_eq, ← List.countP_eq_length_filter, ← List.countP_eq_length_filter]
  clear perm
  generalize plan.objects = objects at titled
  induction titled with
  | nil => rfl
  | cons title _ inductionHypothesis =>
    rw [List.countP_cons, List.countP_cons, inductionHypothesis, title.kind, title.name]

/-- A plan holds as many objects of a name as the network. -/
theorem length_namesakes (kind : ClassKind) (name : String) :
    (plan.namesakes kind name).length = (called config network kind name).length :=
  length_filter_objects titled perm fun found title => found == kind.name && title == name

/-- A plan holds as many objects whose name a text begins with as the network. -/
theorem length_beginnings (kind : ClassKind) (separator name : String) :
    (plan.beginnings kind separator name).length =
      (beginning config network kind separator name).length :=
  length_filter_objects titled perm fun found title =>
    found == kind.name && (Text.after? (title ++ separator) name).isSome

end Counts

variable (coherent : network.Coherent)

include coherent

/-- The objects called by a name are those of the kind that have it. -/
theorem mem_called {scope : Scope} :
    scope ∈ called config network kind name ↔
      scope.classKind? = some kind ∧ network.Has scope ∧ nameOf config network scope = name := by
  rw [called, List.mem_filter, coherent.mem_scopes, Bool.and_eq_true, beq_iff_eq, beq_iff_eq,
    Scope.kind_eq_iff]
  exact and_left_comm

/-- A name followed by the separator begins the text. -/
theorem mem_beginning {separator : String} {scope : Scope} {rest : String}
    (ofKind : scope.classKind? = some kind) (has : network.Has scope)
    (whole : name = nameOf config network scope ++ separator ++ rest) :
    scope ∈ beginning config network kind separator name := by
  rw [beginning, List.mem_filter, coherent.mem_scopes, Bool.and_eq_true, beq_iff_eq,
    Scope.kind_eq_iff, whole, Text.after?_append]
  exact ⟨has, ofKind, rfl⟩

/-- Objects that are told apart by their names. -/
theorem length_called_le_one
    (different : ∀ left right : Scope, left.classKind? = some kind → right.classKind? = some kind →
      network.Has left → network.Has right →
        nameOf config network left = nameOf config network right → left = right) :
    (called config network kind name).length ≤ 1 := by
  -- All of them have the same image.
  refine length_le_of_image (coherent.nodup_scopes.filter _) (fun _ => ())
    (fun _ _ => List.mem_singleton_self ()) fun left first right second _ => ?_
  obtain ⟨leftKind, leftHas, leftName⟩ := (mem_called coherent).mp first
  obtain ⟨rightKind, rightHas, rightName⟩ := (mem_called coherent).mp second
  exact different left right leftKind rightKind leftHas rightHas (leftName.trans rightName.symm)

/-- Interfaces of one name are on different nodes, whose names begin theirs. -/
theorem length_called_interface_le (apart : network.NamesApart) :
    (called config network .interface name).length ≤
      (beginning config network .node "." name).length := by
  have interfaces {scope : Scope} (listed : scope ∈ called config network .interface name) :
      ∃ id, scope = .interface id ∧ id < network.interfaces.size ∧
        network.interfaceKey id = name := by
    obtain ⟨ofKind, inside, name⟩ := (mem_called coherent).mp listed
    cases scope with
    | interface id => exact ⟨id, rfl, inside, name⟩
    | _ => cases ofKind
  refine length_le_of_image (coherent.nodup_scopes.filter _) (nameBearer network)
    (fun scope listed => ?_) fun left first right second same => ?_
  · obtain ⟨id, rfl, inside, rfl⟩ := interfaces listed
    exact mem_beginning coherent rfl (coherent.node_lt inside) rfl
  · obtain ⟨id, rfl, inside, key⟩ := interfaces first
    obtain ⟨other, rfl, otherInside, otherKey⟩ := interfaces second
    have node : (network.interface id).node = (network.interface other).node :=
      Scope.node.inj same
    have own : (network.interface id).name = (network.interface other).name := by
      have keys : network.interfaceKey id = network.interfaceKey other :=
        key.trans otherKey.symm
      unfold Network.interfaceKey at keys
      dsimp only at keys
      rw [node] at keys
      exact Text.append_inj_right keys
    have listed := coherent.interfaces.mem_iff.mpr ⟨inside, rfl⟩
    have otherListed := coherent.interfaces.mem_iff.mpr ⟨otherInside, node.symm⟩
    rw [List.inj_on_of_nodup_map (apart.interfaces _) listed otherListed own]

/-- Connections have different sources, whose names begin theirs. -/
theorem length_called_connection_le (linked : network.Linked)
    (connections : network.NamesConnections) :
    (called config network .connection name).length ≤
      (beginning config network .interface "--" name).length := by
  have links {scope : Scope} (listed : scope ∈ called config network .connection name) :
      ∃ id, scope = .connection id ∧ id < network.connections.size ∧
        (network.connection id).name = name := by
    obtain ⟨ofKind, inside, name⟩ := (mem_called coherent).mp listed
    cases scope with
    | connection id => exact ⟨id, rfl, inside, name⟩
    | _ => cases ofKind
  refine length_le_of_image (coherent.nodup_scopes.filter _) (nameBearer network)
    (fun scope listed => ?_) fun left first right second same => ?_
  · obtain ⟨id, rfl, inside, rfl⟩ := links listed
    exact mem_beginning coherent rfl (linked.ends id inside _ (.inl rfl)).1 (connections id inside)
  · obtain ⟨id, rfl, inside, _⟩ := links first
    obtain ⟨other, rfl, otherInside, _⟩ := links second
    have source : (network.connection id).source = (network.connection other).source :=
      Scope.interface.inj same
    have one := (linked.ends id inside _ (.inl rfl)).2
    have two := (linked.ends other otherInside _ (.inl rfl)).2
    rw [← source] at two
    rw [Option.some.inj (one.symm.trans two)]

variable (config name) in
/-- No more objects of the network have a name in a plan than there are ways to read it. -/
theorem length_called_le (linked : network.Linked) (named : network.Named)
    (identified : kind ≠ .group) :
    (called config network kind name).length ≤
      match kind with
      | .interface => (beginning config network .node "." name).length
      | .connection => (beginning config network .interface "--" name).length
      | _ => 1 := by
  cases kind with
  | group => exact absurd rfl identified
  | interface => exact length_called_interface_le coherent named.apart
  | connection => exact length_called_connection_le coherent linked named.connections
  | network =>
    refine length_called_le_one coherent fun left right leftKind rightKind _ _ _ => ?_
    cases left <;> cases leftKind
    cases right <;> cases rightKind
    rfl
  | node =>
    refine length_called_le_one coherent fun left right leftKind rightKind inside other same => ?_
    cases left <;> cases leftKind
    cases right <;> cases rightKind
    exact congrArg Scope.node (List.inj_on_of_nodup_map named.apart.nodes
      (List.mem_range.mpr inside) (List.mem_range.mpr other) same)
  | segment =>
    refine length_called_le_one coherent fun left right leftKind rightKind inside other same => ?_
    cases left <;> cases leftKind
    cases right <;> cases rightKind
    exact congrArg Scope.segment (named.segments _ inside _ other same)

end Titles

/-! ## Plans -/

section Plans

variable {config : Config} {files : TextFiles} {topology : Topology} {plan : Plan}

/-- The objects of a plan have the kinds and names of those of the network before views. -/
theorem titled_of_shown {other : Config} {network viewed : Network} {order : List Scope}
    {objects : List PlanObject} (name : other.name = config.name)
    (views : View.build.outcome network = (.ok order, viewed))
    (shown : List.Forall₂ (Shows other viewed) order objects) :
    List.Forall₂ (TitledAs config network) order objects := by
  have titles := (View.build_within Network.sameTitles_valueless).holds views
  exact shown.imp fun scope object shows =>
    ⟨shows.kind, shows.name.trans (nameOf_congr name titles scope)⟩

/-- No more objects of a plan have a name than there are ways to read it. -/
theorem length_namesakes_le (valid : config.validate = .ok ())
    (run : compile config files topology = .ok plan) {kind : ClassKind}
    (identified : kind ≠ .group) (name : String) :
    (plan.namesakes kind name).length ≤ plan.readings kind name := by
  obtain ⟨compiler, network, order, viewed, made, reached, views, perm, shown⟩ :=
    exists_of_compile run
  obtain ⟨nodeClasses, same⟩ := Compiler.exists_nodeClasses_of_ofConfig made
  have layers : (compiler.config.layers.map (·.name)).Nodup := by
    rw [same]
    exact (Config.checkLayers_names (Config.checkLayers_of_validate valid)).1
  have titled : List.Forall₂ (TitledAs config network) order plan.objects :=
    titled_of_shown (by rw [same]) views shown
  have intact := Compiler.intact_of_reached reached
  have bound := length_called_le config name intact.coherent intact.linked
    (Compiler.named_of_reached layers reached) identified
  rw [← length_namesakes titled perm] at bound
  cases kind with
  | interface => exact bound.trans (length_beginnings titled perm .node "." name).ge
  | connection => exact bound.trans (length_beginnings titled perm .interface "--" name).ge
  | _ => exact bound

/-- In a plan nodes and segments are identified by their names, and interfaces and connections
as far as their names can be read in one way. -/
theorem identifies_of_compile (valid : config.validate = .ok ())
    (run : compile config files topology = .ok plan) : plan.Identifies := by
  have bound (kind : ClassKind) (identified : kind ≠ .group) :=
    length_namesakes_le valid run identified
  have interfaces (plain : ∀ object ∈ plan.objects, object.kind = ClassKind.node.name →
      '.' ∉ object.name.toList) (name : String) : plan.readings .interface name ≤ 1 :=
    length_beginnings_le_one '.' "" plain (bound .node nofun) name
  refine ⟨bound, fun object listed kind identified ofKind single => ?_, interfaces,
    fun nodes plain name => ?_⟩
  · have found := object?_of_namesakes listed ofKind
      ((bound kind identified object.name).trans single)
    refine ⟨found, fun key => ?_⟩
    rw [param?, found]
    rfl
  · exact length_beginnings_le_one '-' "-" plain
      (fun name => (bound .interface nofun name).trans (interfaces nodes name)) name

end Plans

end Plan

namespace Kiosk

/-- A configuration that asks for nothing. -/
def config : Config where
  name := "kiosk"

/-- The compiler of the configuration. -/
def compiler : Compiler where
  config := config
  extensions := [.builtin]
  generators := {}
  extra := {}

/-- Two nodes of which one has the name of the other before a point, and the same place in the
name of an interface. -/
def topology : Topology where
  nodes := [{ name := "a" }, { name := "a.b" }, { name := "x" }]
  edges := [{ source := "a", target := "x", sourceName := "b.c", sourceLabels := ["serial=1"] },
    { source := "a.b", target := "x", sourceName := "c", sourceLabels := ["rack=2"] }]

/-- The network before views are built. -/
def extended : Network := compiler.extended .none topology

/-- The compilation succeeds. -/
theorem exists_plan_of_topology :
    ∃ plan order viewed, Plan.compile config .none topology = .ok plan ∧
      View.build.outcome extended = (.ok order, viewed) ∧
      List.Forall₂ (Plan.Shows config viewed) order plan.objects := by
  have made : Compiler.ofConfig config = .ok compiler := rfl
  have reached : compiler.Reached .none topology .extended extended :=
    Compiler.Succeeds.reached_extended (by constructor <;> decide +kernel)
  obtain ⟨order, viewed, views⟩ : ∃ order after, View.build.outcome extended = (.ok order, after) :=
    View.exists_build (by decide +kernel) (by decide +kernel)
  have indexed : TemplateIndex.ofConfig config =
      .ok ((TemplateIndex.ofConfig config).toOption.getD (.mk [])) :=
    Outcome.eq_ok_of_isOk (.mk []) (by decide +kernel)
  obtain ⟨plan, run, shown⟩ := Plan.exists_plan made reached views rfl indexed
    (by decide +kernel)
  exact ⟨plan, order, viewed, run, views, shown⟩

/-- There are two ways to read the name that two interfaces have, and one to read the name of
another one. -/
theorem identifies_of_kiosk :
    config.validate = .ok () ∧
      ∃ plan, Plan.compile config .none topology = .ok plan ∧ plan.Identifies ∧
        (plan.namesakes .interface "a.b.c").length = 2 ∧ plan.readings .interface "a.b.c" = 2 ∧
        (plan.namesakes .interface "x.net0").length = 1 ∧
        plan.readings .interface "x.net0" = 1 := by
  have valid : config.validate = .ok () := by decide +kernel
  obtain ⟨plan, order, viewed, run, views, shown⟩ := exists_plan_of_topology
  have perm := View.order_perm_of_build views
  have titled : List.Forall₂ (Plan.TitledAs config extended) order plan.objects :=
    Plan.titled_of_shown rfl views shown
  have namesakes := Plan.length_namesakes titled perm .interface
  have readings (name : String) : plan.readings .interface name =
      (Plan.beginning config extended .node "." name).length :=
    Plan.length_beginnings titled perm .node "." name
  refine ⟨valid, plan, run, Plan.identifies_of_compile valid run, ?_⟩
  rw [namesakes, namesakes, readings, readings]
  decide +kernel

/-- Two interfaces have one name, and only one of them is found by it. -/
theorem not_found_of_kiosk :
    config.validate = .ok () ∧
      ∃ plan, Plan.compile config .none topology = .ok plan ∧
        ∃ first ∈ plan.objects, ∃ second ∈ plan.objects, first ≠ second ∧
          first.kind = "interface" ∧ second.kind = "interface" ∧
          first.name = "a.b.c" ∧ second.name = "a.b.c" ∧
          ¬ (plan.object? "interface" "a.b.c" = some first ∧
            plan.object? "interface" "a.b.c" = some second) := by
  have valid : config.validate = .ok () := by decide +kernel
  obtain ⟨plan, order, viewed, run, views, shown⟩ := exists_plan_of_topology
  have perm := View.order_perm_of_build views
  have shows (scope : Scope) (listed : scope ∈ extended.scopes) (has : extended.Has scope) :
      ∃ object ∈ plan.objects, object.kind = scope.kind ∧
        object.name = Plan.nameOf config extended scope ∧
        ∀ key, object.params[key]? =
          View.firstValue extended (View.origins extended scope) key := by
    obtain ⟨object, member, shows⟩ := Plan.exists_shown shown (perm.mem_iff.mpr listed)
    have titles := (View.build_within Network.sameTitles_valueless).holds views
    refine ⟨object, member, shows.kind, shows.name.trans (Plan.nameOf_congr rfl titles scope), ?_⟩
    rw [shows.params]
    exact (View.ofScope_eq_ok (View.ofScope_of_build views listed has)).2
  obtain ⟨first, firstListed, firstKind, firstName, firstValues⟩ :=
    shows (.interface 0) (by decide +kernel) (by decide +kernel)
  obtain ⟨second, secondListed, secondKind, secondName, secondValues⟩ :=
    shows (.interface 2) (by decide +kernel) (by decide +kernel)
  have different : first ≠ second := by
    rintro rfl
    have serial := (firstValues "serial").symm.trans (secondValues "serial")
    exact absurd serial (by decide +kernel)
  refine ⟨valid, plan, run, first, firstListed, second, secondListed, different, firstKind,
    secondKind, firstName.trans (by decide +kernel), secondName.trans (by decide +kernel), ?_⟩
  rintro ⟨foundFirst, foundSecond⟩
  exact different (Option.some.inj (foundFirst.symm.trans foundSecond))

end Kiosk

end TopoPlan
