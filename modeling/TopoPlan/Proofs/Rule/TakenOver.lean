import TopoPlan.Proofs.Rule.KeyOrder

/-!
# Parameters that interfaces take over

An interface has the parameters of its node and of its connection under stems.  It takes them
over once, in the middle of the assignment.  `takesOver_of_assignAll` says that they agree at
the end: nothing is given to nodes and connections afterwards, and no rule has a name with
one of the stems.
-/

namespace TopoPlan

namespace Assignment

/-- The stems of what interfaces take over. -/
def takenStems : List String := [nodeStart, connectionStart]

theorem nodeStart_mem_takenStems : nodeStart ∈ takenStems :=
  List.mem_cons_self

theorem connectionStart_mem_takenStems : connectionStart ∈ takenStems :=
  List.mem_cons_of_mem _ List.mem_cons_self

/-- The starts of copied names are reserved. -/
theorem takenStems_reserved : takenStems ⊆ ParamName.reservedStems.map Prod.fst := by
  decide

/-- The own parameters that stay once interfaces have taken over theirs: those that were
taken over, and all of other objects. -/
def Final (name : String) : Scope → Prop
  | .interface _ => ∃ start ∈ takenStems, ∃ key, name = start ++ key
  | _ => True

end Assignment

namespace Network

open Assignment

/-- An interface has the own parameters of another object under a stem. -/
def Mirrors (network : Network) (start : String) (owner : Scope) (id : InterfaceId) : Prop :=
  ∀ key value, network.ownValue? key owner = some value →
    network.ownValue? (start ++ key) (.interface id) = some value

/-- An interface has the parameters of its node and of its connection. -/
structure TakesOver (network : Network) (id : InterfaceId) : Prop where
  node : network.Mirrors nodeStart (.node (network.interface id).node) id
  connection : ∀ link, (network.interface id).connection = some link →
    network.Mirrors connectionStart (.connection link) id

/-- The frame of stages that leave alone how objects are joined, and the own parameters that
stay once interfaces have taken over theirs. -/
def finality : Frame where
  holds before after := SameLinks before after ∧
    ∀ name scope, Final name scope → after.ownValue? name scope = before.ownValue? name scope
  refl network := ⟨.refl network, fun _ _ _ => rfl⟩
  trans first second := ⟨first.1.trans second.1, fun name scope final =>
    (second.2 name scope final).trans (first.2 name scope final)⟩

variable {network before after : Network} {id : InterfaceId}

/-- An interface mirrors its owner as long as both keep their values. -/
theorem Mirrors.congr {start : String} {owner : Scope} (mirrors : before.Mirrors start owner id)
    (own : ∀ key, after.ownValue? key owner = before.ownValue? key owner)
    (taken : ∀ key, after.ownValue? (start ++ key) (.interface id) =
      before.ownValue? (start ++ key) (.interface id)) : after.Mirrors start owner id := by
  intro key value found
  rw [taken]
  rw [own] at found
  exact mirrors key value found

/-- What other interfaces have does not matter. -/
theorem TakesOver.congr (takes : before.TakesOver id) (links : SameLinks before after)
    (values : ∀ name scope, Final name scope → (∀ port, scope = .interface port → port = id) →
      after.ownValue? name scope = before.ownValue? name scope) : after.TakesOver id := by
  have taken {start : String} (stem : start ∈ takenStems) (key : String) :
      after.ownValue? (start ++ key) (.interface id) =
        before.ownValue? (start ++ key) (.interface id) :=
    values _ _ ⟨start, stem, key, rfl⟩ fun _ same => (Scope.interface.inj same).symm
  constructor
  case node =>
    rw [links.node]
    exact takes.node.congr (fun key => values key _ trivial nofun) (taken nodeStart_mem_takenStems)
  case connection =>
    intro link has
    rw [links.link] at has
    exact (takes.connection link has).congr (fun key => values key _ trivial nofun)
      (taken connectionStart_mem_takenStems)

end Network

namespace Assignment

open Network Stage TopoPlan.Distribution

variable {config : Config} {files : TextFiles} {generators : Generators}
  {network before after : Network} {id : InterfaceId}

/-! ## Taking over -/

/-- A copied entry has the value of the entry. -/
theorem mem_withStart {start key value : String} {entries : Table String}
    (found : entries[key]? = some value) : (start ++ key, value) ∈ withStart start entries :=
  List.mem_map.mpr ⟨(key, value), Std.ExtTreeMap.mem_toList_iff_getElem?_eq_some.mpr found, rfl⟩

/-- A copied name begins with the start. -/
theorem exists_of_mem_withStart {start name : String} {entries : Table String}
    (listed : name ∈ (withStart start entries).map Prod.fst) : ∃ key, name = start ++ key := by
  rw [withStart, List.map_map, List.mem_map] at listed
  obtain ⟨entry, _, same⟩ := listed
  exact ⟨entry.1, same.symm⟩

/-- No name is copied twice. -/
theorem nodup_withStart (start : String) (entries : Table String) :
    ((withStart start entries).map Prod.fst).Nodup := by
  rw [withStart, List.map_map]
  refine List.pairwise_map.mpr (Std.ExtTreeMap.distinct_keys_toList.imp ?_)
  intro left right distinct same
  exact distinct (Std.LawfulEqCmp.compare_eq_iff_eq.mpr (Text.append_inj_right same))

/-- The stems begin with different letters. -/
theorem nodeStart_append_ne (left right : String) :
    nodeStart ++ left ≠ connectionStart ++ right := by
  intro same
  have letters := congrArg (·.toList.head?) same
  simp [nodeStart, connectionStart] at letters

/-- The name of an object does not start with a stem. -/
theorem objectName_ne_append {start : String} (stem : start ∈ takenStems) (key : String) :
    ParamName.objectName ≠ start ++ key := by
  intro same
  have letters := congrArg (·.toList.take 2) same
  simp only [takenStems, List.mem_cons, List.not_mem_nil, or_false] at stem
  rcases stem with rfl | rfl
  · simp [ParamName.objectName, nodeStart] at letters
  · simp [ParamName.objectName, connectionStart] at letters

/-- An interface takes over each parameter once. -/
theorem nodup_takenOver (network : Network) (id : InterfaceId) :
    ((takenOver network id).map Prod.fst).Nodup := by
  have unnamed {start : String} (stem : start ∈ takenStems) (entries : Table String) :
      ParamName.objectName ∉ (withStart start entries).map Prod.fst := by
    intro listed
    obtain ⟨key, same⟩ := exists_of_mem_withStart listed
    exact objectName_ne_append stem key same
  unfold takenOver
  dsimp only
  rw [List.cons_append, List.map_cons, List.map_append]
  split
  case h_1 link has =>
    refine List.nodup_cons.mpr ⟨?_, List.nodup_append.mpr
      ⟨nodup_withStart _ _, nodup_withStart _ _, ?_⟩⟩
    · rw [List.mem_append, not_or]
      exact ⟨unnamed nodeStart_mem_takenStems _, unnamed connectionStart_mem_takenStems _⟩
    · intro left leftListed right rightListed same
      obtain ⟨leftKey, rfl⟩ := exists_of_mem_withStart leftListed
      obtain ⟨rightKey, rfl⟩ := exists_of_mem_withStart rightListed
      exact nodeStart_append_ne leftKey rightKey same
  case h_2 =>
    rw [List.map_nil, List.append_nil]
    exact List.nodup_cons.mpr ⟨unnamed nodeStart_mem_takenStems _, nodup_withStart _ _⟩

/-- An interface takes over all copied entries at once. -/
theorem takeOver_eq (network : Network) (id : InterfaceId) :
    takeOver network id =
      network.updateParameters (.interface id) (·.setAll (takenOver network id)) :=
  rfl

/-- Values taken over leave the layout as it is. -/
theorem sameLayout_takeOver (network : Network) (id : InterfaceId) :
    SameLayout network (takeOver network id) := by
  rw [takeOver_eq]
  exact layout_valueless.parameters network (.interface id) _

/-- Taking over leaves other objects alone. -/
theorem ownValue?_takeOver_of_ne (scope : Scope) (different : scope ≠ .interface id)
    (name : String) : (takeOver network id).ownValue? name scope = network.ownValue? name scope := by
  rw [takeOver_eq, ownValue?, parametersOf_updateParameters, if_neg fun same => different same.1]
  rfl

/-- An interface that takes over has what it took over. -/
theorem ownValue?_takeOver (inside : id < network.interfaces.size) {name value : String}
    (listed : (name, value) ∈ takenOver network id) :
    (takeOver network id).ownValue? name (.interface id) = some value := by
  rw [takeOver_eq, ownValue?, parametersOf_updateParameters, if_pos ⟨rfl, inside⟩]
  exact Table.getElem?_setAll_of_mem (nodup_takenOver network id) listed

/-- An interface that takes over values has them. -/
theorem takesOver_takeOver (inside : id < network.interfaces.size) :
    (takeOver network id).TakesOver id := by
  have links := (sameLayout_takeOver network id).links
  constructor
  case node =>
    rw [links.node]
    intro key value found
    rw [ownValue?_takeOver_of_ne (.node _) nofun] at found
    refine ownValue?_takeOver inside (List.mem_append_left _ (List.mem_cons_of_mem _ ?_))
    exact mem_withStart found
  case connection =>
    intro link has key value found
    rw [links.link] at has
    rw [ownValue?_takeOver_of_ne (.connection _) nofun] at found
    refine ownValue?_takeOver inside (List.mem_append_right _ ?_)
    simp only [has]
    exact mem_withStart found

/-- What an interface has taken over stays when interfaces take over theirs. -/
theorem takesOver_takeOver_of_takesOver (takes : network.TakesOver id)
    (inside : id < network.interfaces.size) (other : InterfaceId) :
    (takeOver network other).TakesOver id := by
  by_cases same : id = other
  · rw [← same]
    exact takesOver_takeOver inside
  · refine takes.congr (sameLayout_takeOver network other).links fun name scope _ own => ?_
    exact ownValue?_takeOver_of_ne scope (fun equal => same (own other equal).symm) name

/-- All interfaces of a list take over their parameters. -/
theorem takesOver_foldl {ids : List InterfaceId}
    (inside : ∀ id ∈ ids, id < network.interfaces.size) :
    ∀ id ∈ ids, (ids.foldl takeOver network).TakesOver id := by
  -- An interface that has taken over stays so in the rest of the fold.
  let steady (id : InterfaceId) (current : Network) : Prop :=
    current.TakesOver id ∧ id < current.interfaces.size
  have keeps (id other : InterfaceId) (current : Network) (holds : steady id current) :
      steady id (takeOver current other) :=
    ⟨takesOver_takeOver_of_takesOver holds.1 holds.2 other,
      (sameLayout_takeOver current other).links.interfaceCount ▸ holds.2⟩
  induction ids generalizing network with
  | nil => exact List.forall_mem_nil _
  | cons first rest inductionHypothesis =>
    have same := (sameLayout_takeOver network first).links.interfaceCount
    refine List.forall_mem_cons.mpr ⟨?_, inductionHypothesis fun id listed => ?_⟩
    · have here := inside first List.mem_cons_self
      have start : steady first (takeOver network first) :=
        ⟨takesOver_takeOver here, same ▸ here⟩
      exact (List.foldlRecOn (motive := steady first) rest _ start
        fun current holds other _ => keeps first other current holds).1
    · rw [same]
      exact inside id (List.mem_cons_of_mem _ listed)

/-! ## What follows -/

/-- The distribution of a rule to interfaces: the rule has no reserved name, or else there is
no such rule and nothing happens. -/
theorem distributeRule_finality (valid : config.validate = .ok ()) {name : String}
    {objects : List Scope} (ports : ∀ object ∈ objects, ∃ id, object = .interface id) :
    Within finality (distributeRule config files (shared config) name objects) := by
  cases found : config.rule? name with
  | none =>
    refine within_get_bind fun network => holds_ofExcept_bind fun rule request => ?_
    rw [requestedRule, found] at request
    cases request
  | some rule =>
    obtain rfl : rule.name = name := by simpa using List.find?_some found
    have sound := Config.fault?_of_rule valid (List.mem_of_find?_eq_some found)
    refine distributeRule_holds fun look seen groups grouped group listed owner member current
      value => ⟨(layout_valueless.parameters current owner _).links, fun other scope final => ?_⟩
    obtain ⟨id, rfl⟩ := ports owner (mem_of_shared grouped group listed owner member)
    refine (unaltered_set fun same reserved => ?_).2
    cases same
    obtain ⟨start, stem, key, rfl⟩ := final
    exact ParamName.ne_append_of_fault? sound (takenStems_reserved stem) key reserved.symm

/-- Records are no parameters. -/
theorem attachAll_finality :
    Within finality (Attaching.attachAll config files generators) :=
  Attaching.attachAll_holds config files generators fun network added =>
    ⟨(sameReferences_addAttachment network added).sameLinks, fun name scope _ =>
      congrArg (·.get? name) (network.parametersOf_addAttachment added scope)⟩

/-- In the end every interface has all own parameters of its node under the stem of nodes,
and those of its connection under the stem of connections, with the values that they have in
the end. -/
theorem takesOver_of_assignAll (valid : config.validate = .ok ())
    (wellFormed : network.WellFormed)
    (run : (assignAll config files generators).outcome network = (.ok (), after)) :
    ∀ id < after.interfaces.size, after.TakesOver id := by
  obtain ⟨dealt, filled, deal, fill, attach⟩ := assignAll_eq_ok run
  have dealing : Within layout
      (singleKinds.forM fun kind => assignKind config files (·.objectsOf kind)) :=
    within_forM fun _ _ => assignKind_within layout_valueless config files _
  have same := layout.trans (layout_valueless.parameters network .network _) (dealing.holds deal)
  have listed := wellFormed.interfaces.congr same.links.interfaceCount same.links.node
    same.links.ports
  rw [assignInterfaces, outcome_get_bind, outcome_modify_bind] at fill
  let ids := interfacesByNode dealt
  have taken : ∀ id ∈ ids, (ids.foldl takeOver dealt).TakesOver id :=
    takesOver_foldl fun id member => (mem_interfacesByNode listed).mp member
  have distributes : Within finality
      (distribute config files (shared config) (ids.map Scope.interface)) := by
    refine distribute_holds fun name objects inside => distributeRule_finality valid ?_
    intro object member
    obtain ⟨id, _, rfl⟩ := List.mem_map.mp (inside object member)
    exact ⟨id, rfl⟩
  have settled := finality.trans (distributes.holds fill) (attachAll_finality.holds attach)
  intro id inside
  refine (taken id ((mem_interfacesByNode listed).mpr ?_)).congr settled.1
    fun name scope final _ => settled.2 name scope final
  have size : (ids.foldl takeOver dealt).interfaces.size = dealt.interfaces.size :=
    (layout.foldl (fun current => current) sameLayout_takeOver dealt ids).links.interfaceCount
  rw [← size, ← settled.1.interfaceCount]
  exact inside

end Assignment

namespace Foundry

open Network Stage

/-- Nodes and interfaces request one rule, connections and their ends another one. -/
def config : Config where
  name := "foundry"
  rules := [{ name := "asn", min := 65000 }, { name := "cable", assign := .connection }]
  nodeClasses := [{ name := "router", params := ["asn"] }]
  interfaceClasses := [{ name := "uplink", params := ["asn"] }]
  connectionClasses := [{ name := "trunk", params := ["cable"] }]

/-- Two linked nodes.  The labels of one interface have the stems of what it takes over. -/
def topology : Topology where
  nodes := [{ name := "a", labels := ["router"] }, { name := "b", labels := ["asn=7"] }]
  edges := [{ source := "a"
              target := "b"
              labels := ["trunk"]
              sourceLabels := ["uplink", "node_asn=1", "conn_cable=2", "node_site=x"] }]

/-- The compiler of the configuration. -/
def compiler : Compiler where
  config := config
  extensions := [.builtin]
  generators := {}
  extra := {}

/-- The network of the topology. -/
def built : Network := (ofTopology config topology).toOption.getD {}

/-- The network after resolution. -/
def resolved : Network := ((resolve config {}).outcome built).2

/-- The network after the search for segments. -/
def searched : Network := ((Segments.addAll config).outcome resolved).2

/-- The network with its addresses. -/
def addressed : Network := ((Addressing.assignAll config).outcome searched).2

/-- The network with its parameters. -/
def assigned : Network := ((Assignment.assignAll config .none {}).outcome addressed).2

/-- What the rule gives to a node and to the connection replaces the labels of the interface.
Only a label for which its node has nothing remains. -/
theorem takesOver_of_labels :
    config.validate = .ok () ∧ addressed.WellFormed ∧
      (Assignment.assignAll config .none {}).outcome addressed = (.ok (), assigned) ∧
      (∀ id < assigned.interfaces.size, assigned.TakesOver id) ∧
      ["asn", "cable", "node_asn", "conn_cable", "node_site"].map
          (fun name => [0, 1].map fun id => assigned.ownValue? name (.interface id)) =
        [[some "65000", none], [some "0", some "0"], [some "65000", some "7"],
          [some "0", some "0"], [some "x", none]] := by
  have valid : config.validate = .ok () := by decide +kernel
  have made : ofTopology config topology = .ok built :=
    Outcome.eq_ok_of_isOk {} (by decide +kernel)
  have resolution : (resolve config {}).outcome built = (.ok (), resolved) :=
    Stage.outcome_eq_ok (by decide +kernel)
  have search : (Segments.addAll config).outcome resolved = (.ok (), searched) :=
    Stage.outcome_eq_ok (by decide +kernel)
  have addresses : (Addressing.assignAll config).outcome searched = (.ok (), addressed) :=
    Stage.outcome_eq_ok (by decide +kernel)
  have reached : compiler.Reached .none topology .addressed addressed :=
    .addressed (.searched (.resolved (.built made) resolution) search) addresses
  have wellFormed := (Compiler.intact_of_reached reached).wellFormed
  have run : (Assignment.assignAll config .none {}).outcome addressed = (.ok (), assigned) :=
    Stage.outcome_eq_ok (by decide +kernel)
  exact ⟨valid, wellFormed, run, Assignment.takesOver_of_assignAll valid wellFormed run,
    by decide +kernel⟩

end Foundry

end TopoPlan
