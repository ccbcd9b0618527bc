import TopoPlan.Proofs.PlanObjects

/-!
# Names of connections and segments

A connection is named after its ends, and nothing changes a name afterwards: the names of
connections are always those that they would be given again.  Segments are numbered in each
layer.  `named_of_reached` gathers what is known of the names of all objects when views are
built.
-/

namespace TopoPlan

namespace Segments

open Network Stage

variable {config : Config} {before after : Network}

/-! ## Segments -/

/-- The digits of a numeral are not the letter before them in the name of a segment. -/
theorem not_mem_digits (number : Nat) : 'g' ∉ (Numeral.text number).toList := by
  intro listed
  rw [Numeral.text, String.toList_ofList] at listed
  have digit := Nat.isDigit_of_mem_toDigits (by decide) (by decide) listed
  exact absurd digit (by decide)

/-- The name of a segment tells its layer and its number. -/
theorem segmentName_inj {layer other : String} {left right : Nat}
    (same : segmentName layer left = segmentName other right) : layer = other ∧ left = right := by
  -- Read backwards, the name is cut at the letter before the digits.
  have cut (layer : String) (number : Nat) :
      Text.splitOnce 'g' (segmentName layer number).toList.reverse =
        some ((Numeral.text number).toList.reverse, (layer ++ "_se").toList.reverse) := by
    have parts : (segmentName layer number).toList.reverse =
        (Numeral.text number).toList.reverse ++ 'g' :: (layer ++ "_se").toList.reverse := by
      simp [segmentName]
    rw [parts]
    exact Text.splitOnce_append 'g' (by simpa using not_mem_digits number) _
  have pairs := cut layer left
  rw [same, cut other right, Option.some_inj, Prod.mk.injEq, List.reverse_inj, List.reverse_inj,
    String.toList_inj, String.toList_inj] at pairs
  obtain ⟨digits, start⟩ := pairs
  refine ⟨?_, Numeral.text_inj digits.symm⟩
  have lists := congrArg String.toList start
  rw [String.toList_append, String.toList_append] at lists
  exact (String.toList_inj.mp (List.append_cancel_right lists)).symm

/-- The segments of a layer are numbered from zero. -/
theorem names_ofLayer (network : Network) (layer : Layer) :
    (ofLayer network layer).map (·.name) =
      (List.range (ofLayer network layer).length).map (segmentName layer.name) := by
  let numbered (state : List ConnectionId × List Segment) : Prop :=
    state.2.map (·.name) = (List.range state.2.length).map (segmentName layer.name)
  refine List.foldlRecOn (motive := numbered) network.connectionIds _ rfl ?_
  intro state holds id _
  unfold step
  dsimp only
  split
  · exact holds
  · dsimp only [numbered] at holds ⊢
    rw [List.map_append, holds, List.length_append, List.length_singleton, List.range_succ,
      List.map_append]
    rfl

/-- The names of segments are different, and each has the name of its layer. -/
structure Numbered (done : List String) (network : Network) : Prop where
  different : (network.outlines.map (·.name)).Nodup
  layered : ∀ name ∈ network.outlines.map (·.name),
    ∃ layer ∈ done, ∃ number, name = segmentName layer number

/-- Adding the segments of a layer that has none yet. -/
theorem Numbered.addLayer {done : List String} {layer : Layer} (numbered : Numbered done before)
    (fresh : layer.name ∉ done)
    (run : (Segments.addLayer config layer).outcome before = (.ok (), after)) :
    Numbered (done ++ [layer.name]) after := by
  rw [Segments.addLayer, outcome_get_bind] at run
  have names : after.outlines.map (·.name) = before.outlines.map (·.name) ++
      (List.range (ofLayer before layer).length).map (segmentName layer.name) := by
    rw [(forM_addSegment_eq_ok run).2, List.map_append, List.map_map, ← names_ofLayer]
    rfl
  have own : ∀ name ∈ (List.range (ofLayer before layer).length).map (segmentName layer.name),
      ∃ number, name = segmentName layer.name number := by
    intro name listed
    obtain ⟨number, _, rfl⟩ := List.mem_map.mp listed
    exact ⟨number, rfl⟩
  refine ⟨?_, fun name listed => ?_⟩
  · rw [names, List.nodup_append]
    refine ⟨numbered.different,
      List.nodup_range.map fun _ _ same => (segmentName_inj same).2, ?_⟩
    rintro _ old _ new rfl
    obtain ⟨other, known, _, name⟩ := numbered.layered _ old
    obtain ⟨_, same⟩ := own _ new
    exact fresh ((segmentName_inj (name.symm.trans same)).1 ▸ known)
  · rw [names] at listed
    rcases List.mem_append.mp listed with old | new
    · obtain ⟨other, known, number, same⟩ := numbered.layered name old
      exact ⟨other, List.mem_append_left _ known, number, same⟩
    · obtain ⟨number, same⟩ := own name new
      exact ⟨layer.name, List.mem_append_right _ (List.mem_singleton_self _), number, same⟩

/-- After the search the names of all segments are different. -/
theorem numbered_of_addAll (names : (config.layers.map (·.name)).Nodup)
    (none : before.outlines = []) (run : (addAll config).outcome before = (.ok (), after)) :
    Numbered (config.layers.map (·.name)) after := by
  have start : Numbered [] before := by
    constructor <;> rw [none]
    · exact List.nodup_nil
    · exact List.forall_mem_nil _
  exact forM_addLayer_induction (fun _ _ _ _ fresh run numbered => numbered.addLayer fresh run)
    (by rwa [List.nil_append]) run start

end Segments

/-- What names a connection: its name and its ends. -/
def Connection.title (connection : Connection) : String × InterfaceId × InterfaceId :=
  (connection.name, connection.source, connection.target)

namespace Network

open Stage

variable {config : Config} {network before after : Network}

/-! ## Connections -/

/-- Connections have the names that they would be given again. -/
def NamesConnections (network : Network) : Prop :=
  ∀ id < network.connections.size,
    (network.connection id).name = Naming.connectionName network id

/-- Interfaces keep their keys, and connections their names and ends. -/
structure KeepsTitles (before after : Network) : Prop where
  interfaceCount : before.interfaces.size ≤ after.interfaces.size
  connectionCount : after.connections.size = before.connections.size
  key : ∀ id < before.interfaces.size, after.interfaceKey id = before.interfaceKey id
  connection : ∀ id, (after.connection id).title = (before.connection id).title

/-- Titles kept twice are kept. -/
theorem KeepsTitles.trans {middle : Network} (first : KeepsTitles before middle)
    (second : KeepsTitles middle after) : KeepsTitles before after :=
  ⟨Nat.le_trans first.interfaceCount second.interfaceCount,
    second.connectionCount.trans first.connectionCount,
    fun id inside => (second.key id (Nat.lt_of_lt_of_le inside first.interfaceCount)).trans
      (first.key id inside),
    fun id => (second.connection id).trans (first.connection id)⟩

theorem KeepsTitles.source (keeps : KeepsTitles before after) (id : ConnectionId) :
    (after.connection id).source = (before.connection id).source :=
  congrArg (·.2.1) (keeps.connection id)

theorem KeepsTitles.target (keeps : KeepsTitles before after) (id : ConnectionId) :
    (after.connection id).target = (before.connection id).target :=
  congrArg (·.2.2) (keeps.connection id)

/-- The ends of connections are there. -/
def EndsInside (network : Network) : Prop :=
  ∀ id < network.connections.size, (network.connection id).source < network.interfaces.size ∧
    (network.connection id).target < network.interfaces.size

/-- The ends of linked connections exist. -/
theorem Linked.endsInside (linked : network.Linked) : network.EndsInside :=
  fun id inside =>
    ⟨(linked.ends id inside _ (.inl rfl)).1, (linked.ends id inside _ (.inr rfl)).1⟩

/-- Whether ends exist depends on what keeps the titles alone. -/
theorem EndsInside.congr (inside : before.EndsInside) (keeps : KeepsTitles before after) :
    after.EndsInside := by
  intro id below
  rw [keeps.connectionCount] at below
  rw [keeps.source, keeps.target]
  exact ⟨Nat.lt_of_lt_of_le (inside id below).1 keeps.interfaceCount,
    Nat.lt_of_lt_of_le (inside id below).2 keeps.interfaceCount⟩

/-- Connections stay named while titles are kept. -/
theorem NamesConnections.congr (named : before.NamesConnections) (inside : before.EndsInside)
    (keeps : KeepsTitles before after) : after.NamesConnections := by
  intro id below
  rw [keeps.connectionCount] at below
  obtain ⟨source, target⟩ := inside id below
  have same : Naming.connectionName after id = Naming.connectionName before id := by
    unfold Naming.connectionName
    dsimp only
    rw [keeps.source, keeps.target, keeps.key _ source, keeps.key _ target]
  rw [same, ← named id below]
  exact congrArg (·.1) (keeps.connection id)

/-- Names that stay, with the nodes of interfaces and the titles of connections. -/
theorem SameNames.keepsTitles (same : SameNames before after)
    (node : ∀ id, (after.interface id).node = (before.interface id).node)
    (connectionCount : after.connections.size = before.connections.size)
    (connection : ∀ id, (after.connection id).title = (before.connection id).title) :
    KeepsTitles before after where
  interfaceCount := same.interfaceCount.ge
  connectionCount := connectionCount
  key id _ := by
    unfold interfaceKey
    dsimp only
    rw [node, same.node, same.interface]
  connection := connection

/-- Name one connection after its ends. -/
def nameConnection (network : Network) (id : ConnectionId) : Network :=
  network.updateConnection id fun connection =>
    { connection with name := Naming.connectionName network id }

/-- The name of a connection does not depend on the names of connections. -/
theorem connectionName_nameConnection (network : Network) (id other : ConnectionId) :
    Naming.connectionName (network.nameConnection id) other =
      Naming.connectionName network other := by
  have ends (field : Connection → InterfaceId)
      (keeps : ∀ connection name, field { connection with name } = field connection) :
      field ((network.nameConnection id).connection other) = field (network.connection other) :=
    network.connection_updateConnection_field (fun connection => keeps connection _) id other
  unfold Naming.connectionName
  dsimp only
  rw [ends Connection.source fun _ _ => rfl, ends Connection.target fun _ _ => rfl]
  rfl

theorem size_connections_nameConnection (network : Network) (id : ConnectionId) :
    (network.nameConnection id).connections.size = network.connections.size :=
  network.size_connections_updateConnection id _

/-- Every connection of a list, or that had its name, has it in the end. -/
theorem name_foldl_nameConnection {ids : List ConnectionId} {id : ConnectionId}
    (inside : id < network.connections.size)
    (known : id ∈ ids ∨ (network.connection id).name = Naming.connectionName network id) :
    ((ids.foldl nameConnection network).connection id).name =
      Naming.connectionName (ids.foldl nameConnection network) id := by
  induction ids generalizing network with
  | nil => exact known.resolve_left List.not_mem_nil
  | cons first rest inductionHypothesis =>
    refine inductionHypothesis (network.size_connections_nameConnection first ▸ inside) ?_
    by_cases later : id ∈ rest
    · exact .inl later
    · right
      rw [connectionName_nameConnection, nameConnection, connection_updateConnection]
      by_cases here : first = id
      · rw [if_pos ⟨here, inside⟩, here]
      · rw [if_neg fun found => here found.1]
        exact known.resolve_left fun listed =>
          later ((List.mem_cons.mp listed).resolve_left (Ne.symm here))

/-- Naming connections names them. -/
theorem namesConnections_of_nameConnections
    (run : Naming.nameConnections.outcome before = (.ok (), after)) : after.NamesConnections := by
  have folded : after = before.connectionIds.foldl nameConnection before :=
    outcome_modify_eq_ok.mp run
  have count : after.connections.size = before.connections.size := by
    rw [folded]
    refine List.foldlRecOn (motive := fun current : Network =>
      current.connections.size = before.connections.size) before.connectionIds _ rfl ?_
    exact fun current size id _ => (current.size_connections_nameConnection id).trans size
  intro id inside
  rw [count] at inside
  rw [folded]
  exact name_foldl_nameConnection inside (.inl (List.mem_range.mpr inside))

/-- A management interface leaves keys and titles alone. -/
theorem keepsTitles_addManagement (network : Network) (node : NodeId) (name className : String) :
    KeepsTitles network (network.addManagement node name className) where
  interfaceCount := by
    rw [Management.size_interfaces_addManagement]
    exact Nat.le_succ _
  connectionCount := rfl
  key id inside := by
    unfold interfaceKey
    dsimp only
    rw [interface_addManagement, if_neg (Nat.ne_of_lt inside), name_addManagement]
  connection _ := rfl

/-- A class that acts on an interface leaves keys and titles alone. -/
theorem keepsTitles_interfaceActs {id : InterfaceId} (inside : id < before.interfaces.size)
    (acts : ClassEffects.InterfaceActs config id before after) : KeepsTitles before after := by
  have same : SameShape before after :=
    (ClassEffects.ClassStep.interface id after inside acts).holds shape_tolerant
  exact (sameNames_interfaceActs acts).keepsTitles same.node same.connectionCount
    (acts.connection_field fun _ _ _ => rfl)

/-- Members have no titles. -/
theorem keepsTitles_addMember (network : Network) (member : Member) :
    KeepsTitles network (network.addMember member) := by
  have same := sameShape_addMember network member
  exact (sameNames_addMember network member).keepsTitles same.node same.connectionCount
    (connection_addMember_field Connection.title (fun _ _ => rfl) member)

/-- Connections of a resolved network have the names that they would be given again. -/
theorem namesConnections_of_resolve {extra : ExtraClasses} {built resolved : Network}
    (linked : built.Linked) (run : (resolve config extra).outcome built = (.ok (), resolved)) :
    resolved.NamesConnections := by
  obtain ⟨classified, nodes, interfaces, named, managed, classes, nodeNames, interfaceNames,
    connectionNames, management, members⟩ := resolve_stages run
  have shapes : shape.holds built named :=
    shape.trans ((ClassEffects.resolveClasses_within shape_tolerant extra).holds classes)
      (shape.trans ((Naming.nameNodes_within shape_tolerant.nameless config).holds nodeNames)
        (shape.trans ((Naming.nameInterfaces_within shape_tolerant.nameless).holds interfaceNames)
          ((Naming.nameConnections_within shape_tolerant.nameless).holds connectionNames)))
  let steady (current : Network) : Prop := current.NamesConnections ∧ current.EndsInside
  have keeps {before after : Network} (titles : KeepsTitles before after)
      (holds : steady before) : steady after :=
    ⟨holds.1.congr holds.2 titles, holds.2.congr titles⟩
  have start : steady named :=
    ⟨namesConnections_of_nameConnections connectionNames, (shapes.linked linked).endsInside⟩
  have extended : steady managed := Management.addInterfaces_induction
    (fun network node name className _ _ => keeps (network.keepsTitles_addManagement node name
      className))
    (fun _ _ _ inside acts => keeps (keepsTitles_interfaceActs inside acts)) management start
  have adds : Within (.ofInvariant steady) (Membership.build config) :=
    Membership.build_within fun network member _ _ => keeps (network.keepsTitles_addMember member)
  exact (adds.holds members extended).1

/-! ## All objects -/

/-- The frame of stages that leave alone what names objects other than segments and groups. -/
def keepsNames : Frame where
  holds before after := SameNames before after ∧ KeepsTitles before after
  refl network := ⟨sameNames.refl network, Nat.le_refl _, rfl, fun _ _ => rfl, fun _ => rfl⟩
  trans first second := ⟨sameNames.trans first.1 second.1, first.2.trans second.2⟩

/-- The same titles give the same names. -/
theorem SameTitles.keepsNames (same : SameTitles before after) :
    keepsNames.holds before after := by
  have links := same.references.sameLinks
  have names : SameNames before after :=
    ⟨links.nodeCount, links.interfaceCount, same.keys.node, links.ports, same.interface⟩
  refine ⟨names, names.keepsTitles links.node links.connectionCount fun id => ?_⟩
  unfold Connection.title
  rw [same.keys.connection, links.source, links.target]

/-- Names stay as long as nodes, interfaces and connections do. -/
theorem keepsNames_of_eq (nodes : after.nodes = before.nodes)
    (interfaces : after.interfaces = before.interfaces)
    (connections : after.connections = before.connections) : keepsNames.holds before after := by
  have names : SameNames before after := by
    constructor <;> simp only [Network.node, Network.interface, nodes, interfaces, implies_true]
  refine ⟨names, names.keepsTitles ?_ ?_ ?_⟩ <;>
    simp only [Network.interface, Network.connection, interfaces, connections, implies_true]

/-- The search for segments leaves names alone. -/
theorem addAll_keepsNames : Within keepsNames (Segments.addAll config) := by
  refine within_forM fun layer _ => Segments.addLayer_within
    (fun _ _ => keepsNames_of_eq rfl rfl rfl) (fun network neighbor => ?_)
    (fun network id definition => ?_) layer
  · have names : SameNames network (network.addNeighbor neighbor) := by
      refine sameNames.trans ?_ (sameNames_updateInterface _ fun _ => rfl)
      exact { sameNames.refl network with }
    have node (id : InterfaceId) : ((network.addNeighbor neighbor).interface id).node =
        (network.interface id).node :=
      interface_addNeighbor_field Interface.node (fun _ _ => rfl) neighbor id
    exact ⟨names, names.keepsTitles node rfl fun _ => rfl⟩
  · unfold Segments.applyClass
    dsimp only
    split
    · exact keepsNames.refl network
    · unfold Network.enter
      split <;> exact keepsNames_of_eq rfl rfl rfl

/-- What is known of the names of objects when segments have been searched. -/
structure Named (network : Network) : Prop where
  apart : network.NamesApart
  connections : network.NamesConnections
  segments : ∀ id < network.segments.size, ∀ other < network.segments.size,
    (network.segment id).name = (network.segment other).name → id = other

/-- A named network stays named while titles are the same. -/
theorem Named.congr (named : before.Named) (linked : before.Linked)
    (same : SameTitles before after) : after.Named := by
  obtain ⟨names, titles⟩ := same.keepsNames
  refine ⟨named.apart.congr names, named.connections.congr linked.endsInside titles, ?_⟩
  intro id inside other otherInside name
  rw [same.keys.segmentCount] at inside otherInside
  rw [same.keys.segment, same.keys.segment] at name
  exact named.segments id inside other otherInside name

/-- Segments whose outlines have different names have different names. -/
theorem segment_name_inj (different : (network.outlines.map (·.name)).Nodup) :
    ∀ id < network.segments.size, ∀ other < network.segments.size,
      (network.segment id).name = (network.segment other).name → id = other := by
  intro id inside other otherInside name
  have named {id : SegmentId} (inside : id < network.segments.size) :
      (network.outlines.map (·.name))[id]? = some (network.segment id).name := by
    rw [List.getElem?_map, outlines_getElem? inside]
    rfl
  have below : id < (network.outlines.map (·.name)).length :=
    (List.getElem?_eq_some_iff.mp (named inside)).1
  exact (List.getElem?_inj below different).mp (by rw [named inside, named otherInside, name])

end Network

namespace Compiler

open Network Stage

variable {compiler : Compiler} {files : TextFiles} {topology : Topology} {network : Network}

/-- What is known of names holds when views are built. -/
theorem named_of_reached (layers : (compiler.config.layers.map (·.name)).Nodup)
    (reached : compiler.Reached files topology .extended network) : network.Named := by
  cases reached with
  | @extended assigned reached =>
    cases reached with
    | @assigned addressed _ reached assignment =>
      cases reached with
      | @addressed searched _ reached addresses =>
        have linked := (intact_of_reached reached).linked
        have attaches : Within sameTitles
            (Attaching.attachAll compiler.config files compiler.generators) :=
          Attaching.attachAll_holds _ _ _ fun current => current.sameTitles_addAttachment
        have same : SameTitles searched (compiler.giveParameters assigned) :=
          sameTitles.trans ((Addressing.assignAll_within sameTitles_valueless _).holds addresses)
            (sameTitles.trans ((Assignment.assignAll_within sameTitles_valueless _ files _
              attaches).holds assignment)
              (compiler.giveParameters_holds sameTitles_valueless assigned))
        refine Named.congr ?_ linked same
        cases reached with
        | @searched resolved _ reached search =>
          cases reached with
          | @resolved built _ reached resolution =>
            have intact := intact_of_reached reached
            obtain ⟨names, titles⟩ := addAll_keepsNames.holds search
            have inside := (intact_of_reached (.resolved reached resolution)).linked.endsInside
            cases reached with
            | built made =>
              have outlines := (prepared_of_resolve made resolution).outlines_eq_nil
              have numbered := Segments.numbered_of_addAll layers outlines search
              exact ⟨(namesApart_of_resolve intact.coherent.interfaces resolution).congr names,
                (namesConnections_of_resolve intact.linked resolution).congr inside titles,
                segment_name_inj numbered.different⟩

end Compiler

end TopoPlan
