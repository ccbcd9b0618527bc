import TopoPlan.Proofs.Config.Definitions
import TopoPlan.Proofs.Rule.Groups
import TopoPlan.Proofs.Text.Cutting
import TopoPlan.Rule.Assignment

/-!
# Values of rules at interfaces

A plain rule gives values to interfaces: each has its own, or the ends of a connection share
one, or the ends of all connections of a segment do.  The main statement, `sharedValues`,
says which interfaces take a value and which of them have the same one.
-/

namespace TopoPlan

namespace Network

variable (network : Network) (config : Config) (rule : ParameterRule)

/-- An interface takes a value of a rule that it requests, where the rule gives one: at any
interface, at those with a connection, or at those whose connection takes part in the layer
of the rule. -/
def Takes (id : InterfaceId) : Prop :=
  id < network.interfaces.size ∧ network.portRequests rule.name id = true ∧
    match rule.assign with
    | .object => True
    | .connection => ∃ link, (network.interface id).connection = some link
    | .segment => ∃ layer ∈ config.layers, rule.layer = some layer.name ∧
        ∃ link, (network.interface id).connection = some link ∧
          Segments.Participates network layer link

/-- Two interfaces share a value of a rule: they are the same, or they have the same
connection, or their connections are in the same segment of the layer of the rule. -/
def Shares (left right : InterfaceId) : Prop :=
  match rule.assign with
  | .object => left = right
  | .connection => (network.interface left).connection = (network.interface right).connection
  | .segment => ∃ layer, rule.layer = some layer ∧ ∃ id ∈ network.segmentsIn layer,
      ∃ leftLink ∈ (network.segment id).connections,
        ∃ rightLink ∈ (network.segment id).connections,
          (network.interface left).connection = some leftLink ∧
            (network.interface right).connection = some rightLink

end Network

namespace Distribution

open Network Stage

variable {config : Config} {files : TextFiles} {network before after : Network}
  {rule : ParameterRule} {objects : List Scope}

/-! ## Groups of interfaces -/

/-- Sorting leaves the objects. -/
theorem inKeyOrder_perm (network : Network) (objects : List Scope) :
    (inKeyOrder network objects).Perm objects := by
  have sorted := (List.mergeSort_perm
    (objects.map fun object => (network.sortKey object, object))
    fun left right => decide (left.1 ≤ right.1)).map Prod.snd
  rw [List.map_map] at sorted
  exact sorted.trans (List.Perm.of_eq (List.map_id' objects))

/-- An end of a connection among some objects is one of the interfaces with this
connection. -/
theorem interface_mem_endsAmong (linked : network.Linked) {link : ConnectionId}
    (inside : link < network.connections.size) {id : InterfaceId} :
    .interface id ∈ endsAmong network objects link ↔
      .interface id ∈ objects ∧ (network.interface id).connection = some link := by
  have isEnd : (network.connection link).HasEnd id ↔
      (network.interface id).connection = some link :=
    ⟨fun isEnd => (linked.ends link inside id isEnd).2, fun has => (linked.links id link has).2⟩
  rw [← isEnd]
  simp [endsAmong, Connection.HasEnd, eq_comm (a := id), and_comm]

/-- The ends of connections are interfaces. -/
theorem exists_interface_of_mem_endsAmong {scope : Scope} {link : ConnectionId}
    (member : scope ∈ endsAmong network objects link) : ∃ id, scope = .interface id := by
  have isEnd := (List.mem_filter.mp member).1
  simp only [List.mem_cons, List.not_mem_nil, or_false] at isEnd
  rcases isEnd with rfl | rfl
  · exact ⟨_, rfl⟩
  · exact ⟨_, rfl⟩

/-- No object is an end of two connections. -/
theorem eq_of_mem_endsAmong (linked : network.Linked) {left right : ConnectionId}
    (leftInside : left < network.connections.size) (rightInside : right < network.connections.size)
    {scope : Scope} (leftMember : scope ∈ endsAmong network objects left)
    (rightMember : scope ∈ endsAmong network objects right) : left = right := by
  obtain ⟨id, rfl⟩ := exists_interface_of_mem_endsAmong leftMember
  have one := ((interface_mem_endsAmong linked leftInside).mp leftMember).2
  have other := ((interface_mem_endsAmong linked rightInside).mp rightMember).2
  exact Option.some.inj (one.symm.trans other)

/-- The ends of the connections of a segment among some objects. -/
theorem interface_mem_flatMap_endsAmong (charted : network.Charted config) {layer : String}
    {id : SegmentId} (listed : id ∈ network.segmentsIn layer) {port : InterfaceId} :
    .interface port ∈ (network.segment id).connections.flatMap (endsAmong network objects) ↔
      .interface port ∈ objects ∧ ∃ link ∈ (network.segment id).connections,
        (network.interface port).connection = some link := by
  have ends {link : ConnectionId} (member : link ∈ (network.segment id).connections) :
      .interface port ∈ endsAmong network objects link ↔
        .interface port ∈ objects ∧ (network.interface port).connection = some link :=
    interface_mem_endsAmong charted.linked (charted.link_lt listed member)
  rw [List.mem_flatMap]
  constructor
  · rintro ⟨link, member, isEnd⟩
    obtain ⟨asks, has⟩ := (ends member).mp isEnd
    exact ⟨asks, link, member, has⟩
  · rintro ⟨asks, link, member, has⟩
    exact ⟨link, member, (ends member).mpr ⟨asks, has⟩⟩

section Modes

variable (requesting : ∀ id, .interface id ∈ objects ↔
    id < network.interfaces.size ∧ network.portRequests rule.name id = true)

include requesting

/-- Each interface alone. -/
theorem grouped_of_object (assign : rule.assign = .object) (once : objects.Nodup) :
    Grouped (network.Takes config rule) (network.Shares rule)
      (alone (inKeyOrder network objects)) := by
  have perm := inKeyOrder_perm network objects
  have groups := grouped_of_keys (fun object : Scope => [object])
    (perm.nodup_iff.mpr once) fun left _ right _ scope inLeft inRight =>
      (List.mem_singleton.mp inLeft).symm.trans (List.mem_singleton.mp inRight)
  rw [List.filter_eq_self.mpr fun group listed => by
    obtain ⟨_, _, rfl⟩ := List.mem_map.mp listed
    rfl] at groups
  apply groups.congr
  case taken =>
    intro id
    rw [Takes, assign]
    simp only [List.mem_singleton, exists_eq_right', perm.mem_iff, requesting, and_true]
  case shared =>
    intro left right leftTakes _
    rw [Shares, assign]
    constructor
    · rintro ⟨object, _, inLeft, inRight⟩
      exact Scope.interface.inj ((List.mem_singleton.mp inLeft).trans
        (List.mem_singleton.mp inRight).symm)
    · rintro rfl
      have listed := (requesting left).mpr ⟨leftTakes.1, leftTakes.2.1⟩
      exact ⟨.interface left, perm.mem_iff.mpr listed, List.mem_singleton_self _,
        List.mem_singleton_self _⟩

variable (charted : network.Charted config)

include charted

/-- The ends of each connection. -/
theorem grouped_of_connection (assign : rule.assign = .connection) :
    Grouped (network.Takes config rule) (network.Shares rule)
      ((network.connectionIds.map (endsAmong network objects)).filter
        fun group => !group.isEmpty) := by
  have linked := charted.linked
  have member {id : InterfaceId} {link : ConnectionId}
      (has : (network.interface id).connection = some link) : link ∈ network.connectionIds :=
    List.mem_range.mpr (linked.links id link has).1
  have ends {id : InterfaceId} {link : ConnectionId} (listed : link ∈ network.connectionIds) :
      .interface id ∈ endsAmong network objects link ↔
        .interface id ∈ objects ∧ (network.interface id).connection = some link :=
    interface_mem_endsAmong linked (List.mem_range.mp listed)
  have once : network.connectionIds.Nodup := List.nodup_range
  have groups := grouped_of_keys (endsAmong network objects) once
    fun left leftListed right rightListed scope inLeft inRight =>
      eq_of_mem_endsAmong linked (List.mem_range.mp leftListed) (List.mem_range.mp rightListed)
        inLeft inRight
  apply groups.congr
  case taken =>
    intro id
    rw [Takes, assign, ← and_assoc, ← requesting]
    constructor
    · rintro ⟨link, listed, isEnd⟩
      obtain ⟨asks, has⟩ := (ends listed).mp isEnd
      exact ⟨asks, link, has⟩
    · rintro ⟨asks, link, has⟩
      have listed := member has
      exact ⟨link, listed, (ends listed).mpr ⟨asks, has⟩⟩
  case shared =>
    intro left right leftTakes rightTakes
    have leftAsks := (requesting left).mpr ⟨leftTakes.1, leftTakes.2.1⟩
    have rightAsks := (requesting right).mpr ⟨rightTakes.1, rightTakes.2.1⟩
    rw [Takes, assign] at leftTakes
    obtain ⟨_, _, leftLink, leftHas⟩ := leftTakes
    rw [Shares, assign]
    constructor
    · rintro ⟨link, listed, leftEnd, rightEnd⟩
      exact ((ends listed).mp leftEnd).2.trans ((ends listed).mp rightEnd).2.symm
    · intro same
      have listed := member leftHas
      exact ⟨leftLink, listed, (ends listed).mpr ⟨leftAsks, leftHas⟩,
        (ends listed).mpr ⟨rightAsks, same.symm.trans leftHas⟩⟩

/-- The ends of all connections of each segment of a layer. -/
theorem grouped_of_segment (assign : rule.assign = .segment) {layer : Layer}
    (known : layer ∈ config.layers) (named : rule.layer = some layer.name) :
    Grouped (network.Takes config rule) (network.Shares rule)
      (((network.segmentsIn layer.name).map fun id =>
        (network.segment id).connections.flatMap (endsAmong network objects)).filter
          fun group => !group.isEmpty) := by
  have once : (network.segmentsIn layer.name).Nodup := List.nodup_range.filter _
  have groups := grouped_of_keys
    (fun id => (network.segment id).connections.flatMap (endsAmong network objects)) once
    fun left leftListed right rightListed scope inLeft inRight => by
      obtain ⟨leftLink, leftMember, leftEnd⟩ := List.mem_flatMap.mp inLeft
      obtain ⟨rightLink, rightMember, rightEnd⟩ := List.mem_flatMap.mp inRight
      obtain rfl := eq_of_mem_endsAmong charted.linked (charted.link_lt leftListed leftMember)
        (charted.link_lt rightListed rightMember) leftEnd rightEnd
      exact charted.segment_unique leftListed rightListed leftMember rightMember
  have ends {id : SegmentId} (listed : id ∈ network.segmentsIn layer.name) {port : InterfaceId} :
      .interface port ∈ (network.segment id).connections.flatMap (endsAmong network objects) ↔
        .interface port ∈ objects ∧ ∃ link ∈ (network.segment id).connections,
          (network.interface port).connection = some link :=
    interface_mem_flatMap_endsAmong charted listed
  apply groups.congr
  case taken =>
    intro port
    rw [Takes, assign, ← and_assoc, ← requesting]
    constructor
    · rintro ⟨id, listed, member⟩
      obtain ⟨asks, link, own, has⟩ := (ends listed).mp member
      exact ⟨asks, layer, known, named, link, has,
        (charted.participating layer known link).mp ⟨id, listed, own⟩⟩
    · rintro ⟨asks, other, otherKnown, otherNamed, link, has, participates⟩
      obtain ⟨id, listed, own⟩ :=
        (charted.participating other otherKnown link).mpr participates
      rw [← Option.some.inj (named.symm.trans otherNamed)] at listed
      exact ⟨id, listed, (ends listed).mpr ⟨asks, link, own, has⟩⟩
  case shared =>
    intro left right leftTakes rightTakes
    have leftAsks := (requesting left).mpr ⟨leftTakes.1, leftTakes.2.1⟩
    have rightAsks := (requesting right).mpr ⟨rightTakes.1, rightTakes.2.1⟩
    rw [Shares, assign]
    constructor
    · rintro ⟨id, listed, leftMember, rightMember⟩
      obtain ⟨_, leftLink, leftOwn, leftHas⟩ := (ends listed).mp leftMember
      obtain ⟨_, rightLink, rightOwn, rightHas⟩ := (ends listed).mp rightMember
      exact ⟨layer.name, named, id, listed, leftLink, leftOwn, rightLink, rightOwn, leftHas,
        rightHas⟩
    · rintro ⟨name, same, id, listed, leftLink, leftOwn, rightLink, rightOwn, leftHas, rightHas⟩
      rw [← Option.some.inj (named.symm.trans same)] at listed
      exact ⟨id, listed, (ends listed).mpr ⟨leftAsks, leftLink, leftOwn, leftHas⟩,
        (ends listed).mpr ⟨rightAsks, rightLink, rightOwn, rightHas⟩⟩

/-- The groups of a rule divide the interfaces that take a value of it by which of them
share one. -/
theorem grouped_of_shared (once : objects.Nodup) {groups : List (List Scope)}
    (run : shared config network rule objects = .ok groups) :
    Grouped (network.Takes config rule) (network.Shares rule) groups := by
  unfold shared at run
  split at run
  case h_1 assign =>
    cases run
    exact grouped_of_object requesting assign once
  case h_2 assign =>
    obtain ⟨layer, sharing, run⟩ := Outcome.bind_eq_ok.mp run
    cases run
    unfold sharingLayer at sharing
    split at sharing
    case h_1 => cases sharing
    case h_2 name named =>
      split at sharing
      case isFalse => cases sharing
      case isTrue found =>
        cases sharing
        obtain ⟨definition, look⟩ := Option.isSome_iff_exists.mp found
        obtain rfl : definition.name = layer := by simpa using List.find?_some look
        exact grouped_of_segment requesting charted assign (List.mem_of_find?_eq_some look) named
  case h_3 assign =>
    cases run
    exact grouped_of_connection requesting charted assign

end Modes

/-- Takers of values depend on the layout and on requests alone. -/
theorem takes_congr (same : (besides rule.name).holds before after) :
    after.Takes config rule = before.Takes config rule := by
  have requests (id : InterfaceId) :
      after.portRequests rule.name id = before.portRequests rule.name id :=
    portRequests_congr (same.2 id) rule.name
  have participates (layer : Layer) (link : ConnectionId) :
      Segments.Participates after layer link ↔ Segments.Participates before layer link :=
    Segments.participates_congr same.1.links same.1.layers rfl link
  funext id
  simp only [Takes, same.1.links.interfaceCount, same.1.links.link, requests, participates]

/-- Who shares a value depends on the layout alone. -/
theorem shares_congr (same : SameLayout before after) :
    after.Shares rule = before.Shares rule := by
  funext left right
  simp only [Shares, same.links.link, same.standing.segmentsIn, same.standing.links]

/-- Values are shared also from an earlier network to a later one, when nothing happens to
them in between. -/
theorem Shared.congr {name : String} {takes : InterfaceId → Prop}
    {shares : InterfaceId → InterfaceId → Prop} {start final : Network}
    (shared : Shared name takes shares before after)
    (earlier : ∀ id, before.portValue? name id = start.portValue? name id)
    (later : ∀ id, final.portValue? name id = after.portValue? name id) :
    Shared name takes shares start final where
  given id takesValue := by
    rw [later]
    exact shared.given id takesValue
  same_iff left right leftTakes rightTakes := by
    rw [later, later]
    exact shared.same_iff left right leftTakes rightTakes
  kept id idle := by
    rw [later, ← earlier]
    exact shared.kept id idle

end Distribution

namespace ParamName

variable {name : String}

/-- A sound parameter name is not the one for the names of objects. -/
theorem ne_objectName_of_fault? (sound : fault? name = none) : name ≠ objectName := by
  rintro rfl
  cases sound

/-- A name without fault does not start with a reserved stem. -/
theorem ne_append_of_fault? (sound : fault? name = none) {stem : String}
    (reserved : stem ∈ reservedStems.map Prod.fst) (rest : String) : stem ++ rest ≠ name := by
  rintro rfl
  obtain ⟨entry, listed, rfl⟩ := List.mem_map.mp reserved
  unfold fault? at sound
  split at sound
  case isTrue => cases sound
  case isFalse =>
    have free := List.findSome?_eq_none_iff.mp sound entry listed
    rw [Text.after?_append] at free
    cases free

end ParamName

namespace Assignment

open Network Stage TopoPlan.Distribution

variable {config : Config} {files : TextFiles} {generators : Generators}
  {network after : Network} {name : String}

/-! ## Interfaces in the order of their nodes -/

/-- All interfaces are listed at a node. -/
theorem mem_interfacesByNode
    (listed : ListedOnce network.interfaces.size (fun id => (network.interface id).node)
      fun id => (network.node id).interfaces) {id : InterfaceId} :
    id ∈ interfacesByNode network ↔ id < network.interfaces.size :=
  (ports_perm listed).mem_iff.trans List.mem_range

/-- No interface is listed at two nodes. -/
theorem nodup_interfacesByNode (charted : network.Charted config) :
    (interfacesByNode network).Nodup :=
  (ports_perm charted.interfaces).nodup_iff.mpr List.nodup_range

/-! ## Stages that do not give values of a rule to interfaces -/

/-- What an interface takes over has reserved names. -/
theorem not_mem_takenOver (sound : ParamName.fault? name = none) (id : InterfaceId) :
    name ∉ (takenOver network id).map Prod.fst := by
  have stems (start : String) (reserved : start ∈ ParamName.reservedStems.map Prod.fst)
      (entries : Table String) : name ∉ (withStart start entries).map Prod.fst := by
    rw [withStart, List.map_map, List.mem_map]
    rintro ⟨entry, _, same⟩
    exact ParamName.ne_append_of_fault? sound reserved entry.1 same
  unfold takenOver
  dsimp only
  rw [List.map_append, List.map_cons, List.mem_append, List.mem_cons]
  rintro ((same | own) | linked)
  · exact ParamName.ne_objectName_of_fault? sound same
  · exact stems nodeStart (by decide) _ own
  · split at linked
    · exact stems connectionStart (by decide) _ linked
    · cases linked

/-- What interfaces take over is nothing that rules give. -/
theorem besides_foldl_takeOver (sound : ParamName.fault? name = none) (ids : List InterfaceId) :
    (besides name).holds network (ids.foldl takeOver network) := by
  refine (besides name).foldl (fun current => current) (fun current id => ?_) network ids
  have takes : takeOver current id =
      current.updateParameters (.interface id) (·.setAll (takenOver current id)) := rfl
  rw [takes]
  refine ⟨layout_valueless.parameters current _ _, fun other => ?_⟩
  refine undisturbed_updateParameters fun _ parameters => ⟨rfl, ?_⟩
  exact parameters.get?_setAll_of_not_mem (not_mem_takenOver sound id)

/-- The parameters of the objects of one kind are those of no other object. -/
theorem assignKind_unaltered (sound : ParamName.fault? name = none) {scope : Scope}
    {scopes : Network → List Scope} (away : ∀ network, scope ∉ scopes network) :
    Within (unaltered name scope) (assignKind config files scopes) := by
  refine within_bind (within_modify fun current => ?_) fun _ =>
    within_bind within_get fun seen => distribute_holds fun other objects inside => ?_
  · exact (unaltered name scope).foldl (fun current => current)
      (fun current _ => unaltered_set fun _ =>
        (ParamName.ne_objectName_of_fault? sound).symm) current (scopes current)
  · refine distributeRule_holds fun look rule groups grouped group listed owner member _ _ =>
      unaltered_set fun same => ?_
    cases grouped
    obtain ⟨object, known, rfl⟩ := List.mem_map.mp listed
    rw [List.mem_singleton.mp member] at same
    refine absurd (inside object ((inKeyOrder_perm look objects).mem_iff.mp known)) ?_
    rw [same]
    exact away seen

/-- The parameters of objects other than interfaces. -/
theorem assignKind_besides (sound : ParamName.fault? name = none) {scopes : Network → List Scope}
    (away : ∀ network id, .interface id ∉ scopes network) :
    Within (besides name) (assignKind config files scopes) :=
  within_besides (assignKind_within layout_valueless config files scopes) fun id =>
    assignKind_unaltered sound fun network => away network id

/-- The distribution of another rule. -/
theorem distributeRule_besides {grouping : Grouping} {other : String} (objects : List Scope)
    (different : other ≠ name) :
    Within (besides name) (distributeRule config files grouping other objects) :=
  within_besides (distributeRule_within layout_valueless config files grouping other objects)
    fun _ => distributeRule_holds fun _ _ _ _ _ _ _ _ _ _ => undisturbed_set fun _ => different

end Assignment

/-- A record leaves the parameters of all objects alone. -/
theorem Network.parametersOf_addAttachment (network : Network) (added : Attachment)
    (scope : Scope) : (network.addAttachment added).parametersOf scope =
      network.parametersOf scope := by
  unfold addAttachment
  dsimp only
  split
  case h_1 =>
    cases scope with
    | node =>
      dsimp only [parametersOf]
      exact node_updateNode_field _ (fun _ => by rfl) _ _
    | _ => rfl
  case h_2 =>
    cases scope with
    | interface =>
      dsimp only [parametersOf]
      exact interface_updateInterface_field _ (fun _ => by rfl) _ _
    | _ => rfl
  case h_3 =>
    cases scope with
    | connection =>
      dsimp only [parametersOf]
      exact connection_updateConnection_field _ (fun _ => by rfl) _ _
    | _ => rfl
  case h_4 =>
    cases scope with
    | group =>
      dsimp only [parametersOf]
      exact group_updateGroup_field _ (fun _ => by rfl) _ _
    | _ => rfl
  case h_5 =>
    cases scope with
    | segment =>
      dsimp only [parametersOf]
      exact segment_updateSegment_field _ (fun _ => by rfl) _ _
    | _ => rfl
  all_goals cases scope <;> rfl

namespace Attaching

open Network Stage

/-- Giving records keeps what every record keeps. -/
theorem attachAll_holds {frame : Frame} (config : Config) (files : TextFiles)
    (generators : Generators)
    (adds : ∀ network added, frame.holds network (network.addAttachment added)) :
    Within frame (attachAll config files generators) := by
  refine within_bind (within_ofExcept _) fun _ => within_forM fun rule _ => ?_
  refine within_get_bind fun network => holds_ofExcept_bind fun records _ => ?_
  refine frame.foldl (fun current => current) (fun current entry => ?_) network _
  exact frame.foldl (fun current => current) (fun current _ => adds current _) current _

/-- Records are no parameters of objects. -/
theorem attachAll_unaltered (config : Config) (files : TextFiles) (generators : Generators)
    (name : String) (scope : Scope) :
    Within (unaltered name scope) (attachAll config files generators) := by
  refine attachAll_holds config files generators fun network added => ?_
  have parameters := network.parametersOf_addAttachment added scope
  exact ⟨congrArg Parameters.flags parameters, congrArg (·.get? name) parameters⟩

end Attaching

namespace Assignment

open Network Stage TopoPlan.Distribution

variable {config : Config} {files : TextFiles} {generators : Generators}
  {network addressed after : Network} {rule : ParameterRule}

/-- The parameters of interfaces. -/
theorem shared_of_assignInterfaces (valid : config.validate = .ok ())
    (charted : network.Charted config) (listed : rule ∈ config.rules)
    (plain : rule.attaches = false)
    (run : (assignInterfaces config files).outcome network = (.ok (), after)) :
    Shared rule.name (network.Takes config rule) (network.Shares rule) network after := by
  have sound := Config.fault?_of_rule valid listed
  rw [assignInterfaces, outcome_get_bind, outcome_modify_bind] at run
  let ids := interfacesByNode network
  let taken := ids.foldl takeOver network
  have start : (besides rule.name).holds network taken := besides_foldl_takeOver sound ids
  have requesting (id : InterfaceId) :
      .interface id ∈ (ids.map Scope.interface).filter
          (fun scope => (taken.parametersOf scope).hasFlag rule.name) ↔
        id < taken.interfaces.size ∧ taken.portRequests rule.name id = true := by
    have known : .interface id ∈ ids.map Scope.interface ↔ id < taken.interfaces.size := by
      rw [start.1.links.interfaceCount, ← mem_interfacesByNode charted.interfaces]
      simp [ids]
    rw [List.mem_filter, known]
    rfl
  have others (other : String) (objects : List Scope) (different : other ≠ rule.name) :
      Within (besides rule.name) (distributeRule config files (shared config) other objects) :=
    distributeRule_besides objects different
  have once : ((ids.map Scope.interface).filter
      fun scope => (taken.parametersOf scope).hasFlag rule.name).Nodup :=
    ((nodup_interfacesByNode charted).map fun _ _ => Scope.interface.inj).filter _
  rcases distribute_eq_ok others run with ⟨empty, later⟩ | ⟨before, next, earlier, turn, later⟩
  · -- Nobody requests the rule.
    have same := (besides rule.name).trans start later
    have idle (id : InterfaceId) : ¬ network.Takes config rule id := by
      rw [← takes_congr start]
      rintro ⟨inside, requests, _⟩
      have asks := (requesting id).mpr ⟨inside, requests⟩
      rw [empty] at asks
      cases asks
    exact ⟨fun id takes => absurd takes (idle id), fun left _ takes => absurd takes (idle left),
      fun id _ => (same.2 id).2⟩
  · have same := (besides rule.name).trans start earlier
    obtain ⟨groups, candidates, grouping, values, rfl⟩ :=
      distributeRule_eq_ok (Config.rule?_of_mem valid listed) plain turn
    obtain ⟨length, different⟩ := Candidate.values_eq_ok values
    have grouped := grouped_of_shared (fun id => by
      rw [earlier.1.links.interfaceCount, portRequests_congr (earlier.2 id)]
      exact requesting id) (charted.congr same.1) once grouping
    rw [takes_congr same, shares_congr same.1] at grouped
    refine (grouped.shared_giveAll length different fun id takes => ?_).congr
      (fun id => (same.2 id).2) fun id => (later.2 id).2
    rw [same.1.links.interfaceCount]
    exact takes.1

/-- Plain rules give values to the interfaces that take them.  Two of these have the same
value exactly when they share it: in mode object never, in mode connection when they have
the same connection, in mode segment when their connections are in the same segment of the
layer of the rule.  All other interfaces keep what they had. -/
theorem sharedValues (valid : config.validate = .ok ()) (searched : Searched config network)
    (addressing : (Addressing.assignAll config).outcome network = (.ok (), addressed))
    (run : (assignAll config files generators).outcome addressed = (.ok (), after))
    (listed : rule ∈ config.rules) (plain : rule.attaches = false) :
    Shared rule.name (addressed.Takes config rule) (addressed.Shares rule) addressed after := by
  have sound := Config.fault?_of_rule valid listed
  have charted : addressed.Charted config :=
    (charted_of_searched valid searched).congr
      ((Addressing.assignAll_within layout_valueless config).holds addressing)
  have kind (scope : Nat → Scope) (ids : Network → List Nat)
      (different : ∀ id other, scope id ≠ .interface other) :
      Within (besides rule.name)
        (assignKind config files fun network => (ids network).map scope) := by
    apply assignKind_besides sound
    intro network id member
    obtain ⟨other, _, same⟩ := List.mem_map.mp member
    exact different other id same
  rw [assignAll, outcome_modify_bind] at run
  let named := addressed.updateParameters .network (·.set ParamName.objectName config.name)
  have start : (besides rule.name).holds addressed named :=
    ⟨layout_valueless.parameters addressed .network _, fun id =>
      undisturbed_set fun same => nomatch same⟩
  obtain ⟨_, nodes, nodesRun, run⟩ := outcome_bind_eq_ok.mp run
  obtain ⟨_, links, linksRun, run⟩ := outcome_bind_eq_ok.mp run
  obtain ⟨_, groups, groupsRun, run⟩ := outcome_bind_eq_ok.mp run
  obtain ⟨_, segments, segmentsRun, run⟩ := outcome_bind_eq_ok.mp run
  obtain ⟨_, filled, fill, attach⟩ := outcome_bind_eq_ok.mp run
  have nodesKept := (kind .node Network.nodeIds fun _ _ => nofun).holds nodesRun
  have linksKept := (kind .connection Network.connectionIds fun _ _ => nofun).holds linksRun
  have groupsKept := (kind .group Network.groupIds fun _ _ => nofun).holds groupsRun
  have segmentsKept := (kind .segment Network.segmentIds fun _ _ => nofun).holds segmentsRun
  have same : (besides rule.name).holds addressed segments :=
    (besides rule.name).trans start ((besides rule.name).trans nodesKept
      ((besides rule.name).trans linksKept ((besides rule.name).trans groupsKept segmentsKept)))
  have shared := shared_of_assignInterfaces valid (charted.congr same.1) listed plain fill
  rw [takes_congr same, shares_congr same.1] at shared
  exact shared.congr (fun id => (same.2 id).2) fun id =>
    ((Attaching.attachAll_unaltered config files generators rule.name (.interface id)).holds
      attach).2

end Assignment

namespace Hall

open Network TopoPlan.Distribution

/-- Interfaces get a number of their segment and one of their cable. -/
def config : Config where
  name := "hall"
  layers := [{ name := "ip"
               connectsByDefault := true
               policies := [{ name := "lan", range := "10.0.0.0/16", subnetLength := 24 }] }]
  rules := [{ name := "vlan", assign := .segment, layer := some "ip", min := 100 },
    { name := "cable", assign := .connection, header := "c" }]
  nodeClasses := [{ name := "host", interfacePolicies := ["lan"] }]
  interfaceClasses := [{ name := "all", params := ["vlan", "cable"] }]

/-- Two hosts at a switch, which bridges, and two hosts linked directly. -/
def topology : Topology where
  nodes := [{ name := "a", labels := ["host"] }, { name := "b", labels := ["host"] },
    { name := "c", labels := ["host"] }, { name := "d", labels := ["host"] }, { name := "s" }]
  edges := [{ source := "a", target := "s" }, { source := "c", target := "d" },
    { source := "s", target := "b" }]

/-- The network of the topology. -/
def built : Network := (ofTopology config topology).toOption.getD {}

/-- The network after resolution. -/
def resolved : Network := ((resolve config {}).outcome built).2

/-- The network with its segments. -/
def searched : Network := ((Segments.addAll config).outcome resolved).2

/-- The network with its addresses. -/
def addressed : Network := ((Addressing.assignAll config).outcome searched).2

/-- The network with its parameters. -/
def assigned : Network := ((Assignment.assignAll config .none {}).outcome addressed).2

/-- The rule for segments. -/
def vlan : ParameterRule := { name := "vlan", assign := .segment, layer := some "ip", min := 100 }

/-- The interfaces at both sides of the switch share a number of their segment, and the direct
link has another one; each link has its own cable. -/
theorem sharedValues_of_switch :
    config.validate = .ok () ∧ Searched config searched ∧
      (Addressing.assignAll config).outcome searched = (.ok (), addressed) ∧
      (Assignment.assignAll config .none {}).outcome addressed = (.ok (), assigned) ∧
      vlan ∈ config.rules ∧ vlan.attaches = false ∧
      Shared "vlan" (addressed.Takes config vlan) (addressed.Shares vlan) addressed assigned ∧
      [0, 1, 2, 3, 4, 5].map (assigned.portValue? "vlan") =
        [some "100", some "100", some "101", some "101", some "100", some "100"] ∧
      [0, 1, 2, 3, 4, 5].map (assigned.portValue? "cable") =
        [some "c0", some "c0", some "c1", some "c1", some "c2", some "c2"] := by
  have valid : config.validate = .ok () := by decide +kernel
  have found : Searched config searched :=
    ⟨topology, {}, built, resolved, Outcome.eq_ok_of_isOk {} (by decide +kernel),
      Stage.outcome_eq_ok (by decide +kernel), Stage.outcome_eq_ok (by decide +kernel)⟩
  have addressing : (Addressing.assignAll config).outcome searched = (.ok (), addressed) :=
    Stage.outcome_eq_ok (by decide +kernel)
  have run : (Assignment.assignAll config .none {}).outcome addressed = (.ok (), assigned) :=
    Stage.outcome_eq_ok (by decide +kernel)
  have listed : vlan ∈ config.rules := List.mem_cons_self
  have plain : vlan.attaches = false := by decide +kernel
  exact ⟨valid, found, addressing, run, listed, plain,
    Assignment.sharedValues valid found addressing run listed plain, by decide +kernel,
    by decide +kernel⟩

end Hall

end TopoPlan
