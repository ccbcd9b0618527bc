import TopoPlan.Network.View
import TopoPlan.Proofs.Network.ObjectOrder

/-!
# Relative views

`origins` lists where the names of a view come from, nearest first.  The main statement,
`relative_of_build`, is that the first origin of a name decides its value.
-/

namespace TopoPlan

namespace View

/-- What stands before the names of an origin, and the object whose own parameters it
shows. -/
abbrev Origin := String × Scope

section Origins

variable (network : Network)

/-- The groups of a node: each under the stem of groups, then under its classes. -/
def groupOrigins (stem : String) (id : NodeId) : List Origin :=
  (network.node id).groups.flatMap fun group =>
    (stem ++ "group_", .group group) ::
      (network.group group).classes.map fun className => (stem ++ className ++ "_", .group group)

/-- An interface, its node and the groups of its node. -/
def interfaceOrigins (stem : String) (id : InterfaceId) : List Origin :=
  (stem, .interface id) :: (stem ++ "node_", .node (network.interface id).node) ::
    groupOrigins network stem (network.interface id).node

/-- The other end of the connection of an interface. -/
def oppositeOrigins (stem : String) (id : InterfaceId) : List Origin :=
  match network.opposite? id with
  | some opposite => interfaceOrigins network (stem ++ "opp_") opposite
  | none => []

/-- The objects that publish place labels. -/
def publishers : Table Scope :=
  Table.setAll {} (PlaceLabels.published network)

/-- The place labels, in the order of the labels. -/
def placeOrigins : List Origin :=
  (publishers network).toList.map fun entry => (entry.1 ++ "_", entry.2)

/-- The aliases of an object for place labels, in the order of the aliases. -/
def aliasOrigins (scope : Scope) : List Origin :=
  (aliases network scope).toList.filterMap fun entry =>
    (publishers network)[entry.2]?.map fun publisher => (entry.1 ++ "_", publisher)

/-- Where the names of the view of an object come from, the nearest origin first. -/
def origins : Scope → List Origin
  | .network => ("", .network) :: placeOrigins network
  | .connection id => ("", .connection id) :: placeOrigins network
  | .segment id => ("", .segment id) :: placeOrigins network
  | .node id =>
    ("", .node id) :: groupOrigins network "" id ++ placeOrigins network ++
      aliasOrigins network (.node id)
  | .interface id =>
    interfaceOrigins network "" id ++ oppositeOrigins network "" id ++ placeOrigins network ++
      aliasOrigins network (.interface id)
  | .neighbor id =>
    let neighbor := network.neighbor id
    interfaceOrigins network "" neighbor.self ++ oppositeOrigins network "" neighbor.self ++
      interfaceOrigins network "n_" neighbor.peer ++ oppositeOrigins network "n_" neighbor.peer ++
      placeOrigins network
  | .member id =>
    let member := network.member id
    let nodeOfReferrer : List Origin :=
      match member.referrer with
      | .interface port => [("node_", .node (network.interface port).node)]
      | _ => []
    ("", member.referrer) :: nodeOfReferrer ++ [("m_", member.member)] ++ placeOrigins network
  | .group id =>
    ("", .group id) :: ("group_", .group id) ::
      (network.group id).classes.map (fun className => (className ++ "_", .group id)) ++
      placeOrigins network

/-- The value of a name by its first origin: the name is made of the stem of the origin
and the name of an own parameter of its object. -/
def firstValue (nearest : List Origin) (name : String) : Option String :=
  nearest.findSome? fun origin =>
    (Text.after? origin.1 name).bind (network.parametersOf origin.2).get?

/-- The source of an origin. -/
def sourceOf (origin : Origin) : ViewSource :=
  own network origin.1 origin.2

end Origins

section Sources

/-- Looking up a name with a stem among names that all have it. -/
theorem lookup_map_append (stem name : String) (entries : List (String × String)) :
    (entries.map fun entry => (stem ++ entry.1, entry.2)).lookup (stem ++ name) =
      entries.lookup name := by
  induction entries with
  | nil => rfl
  | cons entry rest inductionHypothesis =>
    obtain ⟨key, value⟩ := entry
    rw [List.map_cons, List.lookup_cons, List.lookup_cons, inductionHypothesis]
    by_cases same : name = key
    · simp [same]
    · have different : stem ++ name ≠ stem ++ key := fun equal =>
        same (Text.append_inj_right equal)
      rw [beq_false_of_ne same, beq_false_of_ne different]

/-- Looking up a name among those that a source shows. -/
theorem lookup_shown (source : ViewSource) (name : String) :
    (shown source).lookup name =
      (Text.after? source.stem name).bind fun rest => source.parameters[rest]? := by
  cases cut : Text.after? source.stem name with
  | none =>
    rw [Option.bind_none, List.lookup_eq_none_iff]
    intro entry listed
    obtain ⟨⟨key, value⟩, _, rfl⟩ := List.mem_map.mp listed
    refine bne_iff_ne.mpr ?_
    rintro rfl
    rw [Text.after?_append] at cut
    cases cut
  | some rest =>
    rw [Text.eq_append_of_after? cut, shown, lookup_map_append, Table.lookup_toList,
      Option.bind_some]

/-- In a view the first source of a name counts. -/
theorem getElem?_ofSources (sources : List ViewSource) (name : String) :
    (ofSources sources)[name]? = sources.findSome? fun source =>
      (Text.after? source.stem name).bind fun rest => source.parameters[rest]? := by
  have general : ∀ view : Table String,
      (sources.foldl (fun (view : Table String) source => view.addAll (shown source)) view)[name]? =
        view[name]?.or (sources.findSome? fun source =>
          (Text.after? source.stem name).bind fun rest => source.parameters[rest]?) := by
    induction sources with
    | nil => simp
    | cons source rest inductionHypothesis =>
      intro view
      rw [List.foldl_cons, inductionHypothesis, Table.getElem?_addAll, lookup_shown,
        Option.or_assoc, List.findSome?_cons]
      cases (Text.after? source.stem name).bind fun rest => source.parameters[rest]? <;> simp
  rw [ofSources, general, Std.ExtTreeMap.getElem?_empty, Option.none_or]

variable {network : Network}

/-- The sources at groups are those of the origins, in their order. -/
theorem ofGroups_eq (stem : String) (id : NodeId) :
    ofGroups network stem id = (groupOrigins network stem id).map (sourceOf network) := by
  simp only [ofGroups, groupOrigins, List.map_flatMap, List.map_cons, List.map_map]
  rfl

/-- The sources at an interface are those of the origins, in their order. -/
theorem ofInterface_eq (stem : String) (id : InterfaceId) :
    ofInterface network stem id = (interfaceOrigins network stem id).map (sourceOf network) := by
  simp only [ofInterface, interfaceOrigins, ofGroups_eq, List.map_cons]
  rfl

/-- The sources at the opposite interface are those of the origins, in their order. -/
theorem ofOpposite_eq (stem : String) (id : InterfaceId) :
    ofOpposite network stem id = (oppositeOrigins network stem id).map (sourceOf network) := by
  unfold ofOpposite oppositeOrigins
  cases network.opposite? id with
  | some opposite => exact ofInterface_eq _ _
  | none => rfl

/-- The place labels of a network, with the parameters of their publishers. -/
def publications (network : Network) : PlaceLabels :=
  (publishers network).map fun _ publisher => ⟨publisher, (network.parametersOf publisher).own⟩

/-- Publishing succeeds when no label is published twice; every label then has the
parameters of its publisher. -/
theorem places_eq {places : PlaceLabels} (run : PlaceLabels.ofNetwork network = .ok places) :
    ((PlaceLabels.published network).map Prod.fst).Nodup ∧ places = publications network := by
  let shownBy (_ : String) (publisher : Scope) : Publication :=
    ⟨publisher, (network.parametersOf publisher).own⟩
  let motive (done : List (String × Scope)) (current : PlaceLabels) : Prop :=
    (done.map Prod.fst).Nodup ∧ current = (Table.setAll {} done).map shownBy
  refine Outcome.foldlM_induction (motive := motive) run ⟨List.nodup_nil, ?_⟩ ?_
  · refine Std.ExtTreeMap.ext_getElem? fun label => ?_
    simp [Table.setAll]
  · rintro done ⟨label, publisher⟩ current next _ ⟨once, rfl⟩ step
    unfold PlaceLabels.publish at step
    split at step
    case h_1 => cases step
    case h_2 absent =>
      cases step
      have new : label ∉ done.map Prod.fst := by
        intro listed
        obtain ⟨⟨_, earlier⟩, entry, rfl⟩ := List.mem_map.mp listed
        rw [Std.ExtTreeMap.getElem?_map, Table.getElem?_setAll_of_mem once entry] at absent
        cases absent
      refine ⟨?_, Std.ExtTreeMap.ext_getElem? fun other => ?_⟩
      · rw [List.map_append, List.map_singleton, ← List.concat_eq_append]
        exact .concat new once
      · rw [Table.setAll_concat, Table.getElem?_insert, Std.ExtTreeMap.getElem?_map,
          Std.ExtTreeMap.getElem?_map, Table.getElem?_insert]
        split <;> rfl

/-- Only nodes and interfaces have aliases. -/
theorem aliasOrigins_eq_nil {scope : Scope} (node : ∀ id, scope ≠ .node id)
    (interface : ∀ id, scope ≠ .interface id) : aliasOrigins network scope = [] := by
  cases scope with
  | node id => exact absurd rfl (node id)
  | interface id => exact absurd rfl (interface id)
  | _ => rfl

/-- The origins of an object are its relations, the place labels and its aliases. -/
theorem map_origins (scope : Scope) :
    (origins network scope).map (sourceOf network) =
      related network scope ++ (placeOrigins network).map (sourceOf network) ++
        (aliasOrigins network scope).map (sourceOf network) := by
  cases scope with
  | network | connection | segment =>
    simp [related, origins, sourceOf, aliasOrigins_eq_nil]
  | node => simp [related, origins, sourceOf, ofGroups_eq]
  | interface => simp [related, origins, ofLink, ofInterface_eq, ofOpposite_eq]
  | group =>
    simp [related, origins, ofGroup, sourceOf, groupStart, separator, Function.comp_def,
      aliasOrigins_eq_nil]
  | neighbor =>
    simp [related, origins, ofLink, ofInterface_eq, ofOpposite_eq, neighborStart,
      aliasOrigins_eq_nil]
  | member id =>
    simp only [related, origins, ofReferrer]
    cases (network.member id).referrer <;>
      simp [sourceOf, nodeStart, memberStart, aliasOrigins_eq_nil]

/-- The sources at places are those of the origins, in their order. -/
theorem ofPlaces_eq :
    ofPlaces (publications network) = (placeOrigins network).map (sourceOf network) := by
  rw [publications, ofPlaces, placeOrigins, Std.ExtTreeMap.toList_map, List.map_map, List.map_map]
  rfl

/-- An alias is one for a label that is published. -/
theorem ofAlias_eq_ok {entry : String × String} {source : ViewSource}
    (run : ofAlias (publications network) entry = .ok source) :
    ∃ publisher, (publishers network)[entry.2]? = some publisher ∧
      source = sourceOf network (entry.1 ++ "_", publisher) := by
  unfold ofAlias at run
  split at run
  case h_1 publication found =>
    rw [publications, Std.ExtTreeMap.getElem?_map, Option.map_eq_some_iff] at found
    obtain ⟨publisher, look, rfl⟩ := found
    cases run
    exact ⟨publisher, look, rfl⟩
  case h_2 => cases run

/-- Aliases that are all published give the sources of the origins, in their order. -/
theorem ofAliases_eq {scope : Scope} {found : List ViewSource}
    (run : (aliases network scope).toList.mapM (ofAlias (publications network)) = .ok found) :
    found = (aliasOrigins network scope).map (sourceOf network) ∧
      ∀ entry ∈ (aliases network scope).toList, entry.2 ∈ publishers network := by
  unfold aliasOrigins
  generalize (aliases network scope).toList = entries at run ⊢
  have each := Outcome.mapM_eq_ok run
  clear run
  induction each with
  | nil => exact ⟨rfl, List.forall_mem_nil _⟩
  | cons first _ inductionHypothesis =>
    obtain ⟨publisher, look, rfl⟩ := ofAlias_eq_ok first
    obtain ⟨rfl, targets⟩ := inductionHypothesis
    refine ⟨?_, List.forall_mem_cons.mpr ⟨?_, targets⟩⟩
    · rw [List.filterMap_cons, look]
      rfl
    · rw [Std.ExtTreeMap.mem_iff_isSome_getElem?, look]
      rfl

/-- In the view of an object the first origin of a name counts. -/
theorem ofScope_eq_ok {scope : Scope} {view : Table String}
    (run : ofScope network (publications network) scope = .ok view) :
    (∀ entry ∈ (aliases network scope).toList, entry.2 ∈ publishers network) ∧
      ∀ name, view[name]? = firstValue network (origins network scope) name := by
  obtain ⟨found, told, rfl⟩ := Outcome.map_eq_ok.mp run
  obtain ⟨ofAliases, mapped, same⟩ := Outcome.bind_eq_ok.mp told
  cases same
  obtain ⟨rfl, targets⟩ := ofAliases_eq mapped
  refine ⟨targets, fun name => ?_⟩
  rw [getElem?_ofSources, ofPlaces_eq, ← map_origins, List.findSome?_map]
  rfl

end Sources

end View

namespace Network

section Parameters

variable (network : Network) (scope other : Scope) (change : Parameters → Parameters)

/-- Changing parameters does not change which objects there are. -/
theorem has_updateParameters :
    (network.updateParameters scope change).Has other ↔ network.Has other := by
  cases scope <;> cases other <;>
    simp [updateParameters, Has, updateNode, updateInterface, updateConnection, updateGroup,
      updateSegment]

/-- The parameters of one object have been changed, if there is such an object. -/
theorem parametersOf_updateParameters :
    (network.updateParameters scope change).parametersOf other =
      if other = scope ∧ network.Has other then change (network.parametersOf other)
      else network.parametersOf other := by
  cases scope with
  | network => cases other <;> simp [updateParameters, parametersOf, Has] <;> rfl
  | node id =>
    cases other with
    | node other =>
      simp only [Scope.node.injEq]
      exact field_getD_modify Node.parameters (fun _ => rfl) other default
    | _ => exact (if_neg fun found => Scope.noConfusion found.1).symm
  | interface id =>
    cases other with
    | interface other =>
      simp only [Scope.interface.injEq]
      exact field_getD_modify Interface.parameters (fun _ => rfl) other default
    | _ => exact (if_neg fun found => Scope.noConfusion found.1).symm
  | connection id =>
    cases other with
    | connection other =>
      simp only [Scope.connection.injEq]
      exact field_getD_modify Connection.parameters (fun _ => rfl) other default
    | _ => exact (if_neg fun found => Scope.noConfusion found.1).symm
  | group id =>
    cases other with
    | group other =>
      simp only [Scope.group.injEq]
      exact field_getD_modify Group.parameters (fun _ => rfl) other default
    | _ => exact (if_neg fun found => Scope.noConfusion found.1).symm
  | segment id =>
    cases other with
    | segment other =>
      simp only [Scope.segment.injEq]
      exact field_getD_modify Segment.parameters (fun _ => rfl) other default
    | _ => exact (if_neg fun found => Scope.noConfusion found.1).symm
  | neighbor id =>
    cases other with
    | neighbor other =>
      simp only [Scope.neighbor.injEq]
      exact field_getD_modify Neighbor.parameters (fun _ => rfl) other default
    | _ => exact (if_neg fun found => Scope.noConfusion found.1).symm
  | member id =>
    cases other with
    | member other =>
      simp only [Scope.member.injEq]
      exact field_getD_modify Member.parameters (fun _ => rfl) other default
    | _ => exact (if_neg fun found => Scope.noConfusion found.1).symm

end Parameters

end Network

namespace View

open Network

variable {network after : Network} {order : List Scope}

/-- Every object that is listed has its view when views have been stored, and the other
objects keep theirs. -/
theorem relative_foldl {views : List (Scope × Table String)} {view : Scope → Table String}
    (agree : ∀ entry ∈ views, entry.2 = view entry.1) {scope : Scope} (has : network.Has scope) :
    ((views.foldl (fun current entry => current.updateParameters entry.1 (·.withRelative entry.2))
      network).parametersOf scope).relative =
      if scope ∈ views.map Prod.fst then view scope else (network.parametersOf scope).relative := by
  induction views generalizing network with
  | nil => rfl
  | cons entry rest inductionHypothesis =>
    obtain ⟨first, others⟩ := List.forall_mem_cons.mp agree
    rw [List.foldl_cons, inductionHypothesis others ((has_updateParameters ..).mpr has),
      parametersOf_updateParameters]
    by_cases later : scope ∈ rest.map Prod.fst
    · simp [later]
    · by_cases here : scope = entry.1
      · rw [if_neg later, if_pos ⟨here, has⟩, if_pos (by simp [here]), here]
        exact first
      · simp [later, here]

/-- Views of objects leave records alone. -/
theorem attachments_foldl (network : Network) (views : List (Scope × Table String)) :
    (views.foldl (fun current entry => current.updateParameters entry.1 (·.withRelative entry.2))
      network).attachments = network.attachments := by
  let steady (current : Network) : Prop := current.attachments = network.attachments
  refine List.foldlRecOn (motive := steady) views _ rfl fun current same entry _ => ?_
  refine Eq.trans ?_ same
  unfold updateParameters
  split <;> rfl

/-- Views change no records but for what they show. -/
theorem attachments_store (network : Network) (views : List (Scope × Table String)) :
    (store network views).attachments = network.attachments.map showAttachment := by
  unfold store
  dsimp only
  rw [attachments_foldl]

/-- The views of all objects. -/
theorem all_eq_ok {views : List (Scope × Table String)} (run : all network = .ok views) :
    ((PlaceLabels.published network).map Prod.fst).Nodup ∧
      ScopeOrder.order network network.scopes = .ok (views.map Prod.fst) ∧
      ∀ entry ∈ views, ofScope network (publications network) entry.1 = .ok entry.2 := by
  obtain ⟨places, placed, rest⟩ := Outcome.bind_eq_ok.mp run
  obtain ⟨order, ordered, mapped⟩ := Outcome.bind_eq_ok.mp rest
  obtain ⟨once, rfl⟩ := places_eq placed
  obtain ⟨rfl, each⟩ := Outcome.mapM_pair_eq_ok mapped
  exact ⟨once, ordered, each⟩

/-- Building views looks at the network and then stores all views. -/
theorem outcome_build (network : Network) : build.outcome network =
    match all network with
    | .ok views => (.ok (views.map Prod.fst), store network views)
    | .error error => (.error error, network) := by
  rw [build, Stage.outcome_get_bind, Stage.outcome_bind, Stage.outcome_ofExcept]
  cases all network <;> rfl

/-- What building views does to a network. -/
theorem build_eq_ok (run : build.outcome network = (.ok order, after)) :
    ∃ views, all network = .ok views ∧ order = views.map Prod.fst ∧
      after = store network views := by
  rw [outcome_build] at run
  split at run
  case h_1 views told =>
    cases run
    exact ⟨views, told, rfl, rfl⟩
  case h_2 => cases run

/-- The view that building gives to an object. -/
def viewOf (network : Network) (scope : Scope) : Table String :=
  (ofScope network (publications network) scope).toOption.getD {}

/-- Once views are stored, in the network that they are made from or in another one, objects that
are listed have their views and the others keep what they had. -/
theorem relative_store {views : List (Scope × Table String)} (told : all network = .ok views)
    {other : Network} {scope : Scope} (has : other.Has scope) :
    ((store other views).parametersOf scope).relative =
      if scope ∈ network.scopes then viewOf network scope
      else (other.parametersOf scope).relative := by
  obtain ⟨_, ordered, each⟩ := all_eq_ok told
  have agree : ∀ entry ∈ views, entry.2 = viewOf network entry.1 := by
    intro entry listed
    rw [viewOf, each entry listed]
    rfl
  have folded := relative_foldl agree has
  simp only [(ScopeOrder.order_perm ordered).mem_iff] at folded
  rw [← folded]
  cases scope <;> rfl

/-- Every object has the view that is made of its sources. -/
theorem ofScope_of_build (run : build.outcome network = (.ok order, after)) {scope : Scope}
    (listed : scope ∈ network.scopes) (has : network.Has scope) :
    ofScope network (publications network) scope = .ok (after.parametersOf scope).relative := by
  obtain ⟨views, told, rfl, rfl⟩ := build_eq_ok run
  obtain ⟨_, ordered, each⟩ := all_eq_ok told
  rw [relative_store told has, if_pos listed]
  obtain ⟨entry, member, rfl⟩ :=
    List.mem_map.mp ((ScopeOrder.order_perm ordered).mem_iff.mpr listed)
  rw [viewOf, each entry member]
  rfl

/-- When views are built, no place label is published twice, every alias is one for a
published label, and in the view of every object the first origin of a name decides its
value. -/
theorem relative_of_build (run : build.outcome network = (.ok order, after)) :
    ((PlaceLabels.published network).map Prod.fst).Nodup ∧
      ∀ scope ∈ network.scopes, network.Has scope →
        (∀ entry ∈ (aliases network scope).toList, entry.2 ∈ publishers network) ∧
          ∀ name, (after.parametersOf scope).relative[name]? =
            firstValue network (origins network scope) name := by
  obtain ⟨views, told, _, _⟩ := build_eq_ok run
  exact ⟨(all_eq_ok told).1, fun scope listed has =>
    ofScope_eq_ok (ofScope_of_build run listed has)⟩

/-- Labels that are all different and not published yet can be published. -/
theorem exists_foldlM_publish {entries : List (String × Scope)} {places : PlaceLabels}
    (once : (entries.map Prod.fst).Nodup) (new : ∀ entry ∈ entries, places[entry.1]? = none) :
    ∃ final, entries.foldlM (PlaceLabels.publish network) places = .ok final := by
  induction entries generalizing places with
  | nil => exact ⟨places, rfl⟩
  | cons entry rest inductionHypothesis =>
    obtain ⟨absent, restOnce⟩ := List.nodup_cons.mp once
    obtain ⟨first, others⟩ := List.forall_mem_cons.mp new
    rw [List.foldlM_cons, PlaceLabels.publish, first]
    refine inductionHypothesis restOnce fun other listed => ?_
    have different : entry.1 ≠ other.1 := by
      intro same
      rw [same] at absent
      exact absent (List.mem_map_of_mem listed)
    rw [Table.getElem?_insert, if_neg different]
    exact others other listed

/-- The view of an object can be made when its aliases are ones for published labels. -/
theorem exists_ofScope {scope : Scope}
    (targets : ∀ entry ∈ (aliases network scope).toList, entry.2 ∈ publishers network) :
    ∃ view, ofScope network (publications network) scope = .ok view := by
  have each : ∀ entry ∈ (aliases network scope).toList,
      ∃ source, ofAlias (publications network) entry = .ok source := by
    intro entry listed
    obtain ⟨publisher, look⟩ := Option.isSome_iff_exists.mp
      (Std.ExtTreeMap.mem_iff_isSome_getElem?.mp (targets entry listed))
    rw [ofAlias, publications, Std.ExtTreeMap.getElem?_map, look]
    exact ⟨_, rfl⟩
  obtain ⟨ofAliases, mapped⟩ := Outcome.exists_mapM each
  exact ⟨_, Outcome.map_eq_ok.mpr ⟨_, Outcome.bind_eq_ok.mpr ⟨ofAliases, mapped, rfl⟩, rfl⟩⟩

/-- Views can be built when no place label is published twice and every alias is one for a
published label. -/
theorem exists_build (once : ((PlaceLabels.published network).map Prod.fst).Nodup)
    (targets : ∀ scope ∈ network.scopes, ∀ entry ∈ (aliases network scope).toList,
      entry.2 ∈ publishers network) :
    ∃ order after, build.outcome network = (.ok order, after) := by
  obtain ⟨places, placed⟩ : ∃ places, PlaceLabels.ofNetwork network = .ok places :=
    exists_foldlM_publish once fun _ _ => Std.ExtTreeMap.getElem?_empty
  obtain ⟨_, rfl⟩ := places_eq placed
  obtain ⟨order, ordered⟩ := ScopeOrder.exists_order network network.scopes
  have each : ∀ scope ∈ order, ∃ entry, (do
      let view <- ofScope network (publications network) scope
      pure (scope, view)) = Except.ok entry := by
    intro scope listed
    obtain ⟨view, viewed⟩ :=
      exists_ofScope (targets scope ((ScopeOrder.order_perm ordered).mem_iff.mp listed))
    exact ⟨(scope, view), Outcome.bind_eq_ok.mpr ⟨view, viewed, rfl⟩⟩
  obtain ⟨views, mapped⟩ := Outcome.exists_mapM each
  have told : all network = .ok views :=
    Outcome.bind_eq_ok.mpr ⟨_, placed, Outcome.bind_eq_ok.mpr ⟨order, ordered, mapped⟩⟩
  exact ⟨views.map Prod.fst, store network views, by rw [outcome_build, told]⟩

end View

namespace Office

open Network View

/-- The second host sees its own rack, the ones of its group, and the one of the first
host under the alias of the label that this one publishes; the name of its own parameter
`site_rack` hides the one from the class of its group. -/
theorem relative_of_build_of_hosts :
    ∃ order after, build.outcome searched = (.ok order, after) ∧
      (.node 1) ∈ searched.scopes ∧ searched.Has (.node 1) ∧
      ["rack", "group_rack", "site_rack", "main_rack", "core_rack", "opp_rack"].map
          (fun name => (after.parametersOf (.node 1)).relative[name]?) =
        [some "2", some "3", some "4", some "1", some "1", none] := by
  obtain ⟨order, after, run⟩ : ∃ order after, build.outcome searched = (.ok order, after) :=
    exists_build (by decide +kernel) (by decide +kernel)
  have listed : Scope.node 1 ∈ searched.scopes := by decide +kernel
  have has : searched.Has (.node 1) := by decide +kernel
  refine ⟨order, after, run, listed, has, ?_⟩
  obtain ⟨_, values⟩ := (relative_of_build run).2 (.node 1) listed has
  simp only [values]
  decide +kernel

end Office

end TopoPlan
