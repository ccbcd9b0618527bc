import Mathlib.Tactic.Common
import TopoPlan.Network.Basic

/-!
# Objects after a change

What is at a position after one object was changed or added.  The changes touch one
list of objects each, so everything else is found as before.
-/

namespace TopoPlan

/-- What stands at a position after one entry was changed. -/
theorem getD_modify {α : Type} (entries : Array α) (position other : Nat) (change : α → α)
    (absent : α) :
    (entries.modify position change).getD other absent =
      if position = other ∧ other < entries.size then change (entries.getD other absent)
      else entries.getD other absent := by
  rw [Array.getD_eq_getD_getElem?, Array.getD_eq_getD_getElem?, Array.getElem?_modify]
  rcases Nat.lt_or_ge other entries.size with inside | outside
  · simp only [Array.getElem?_eq_getElem inside, inside, and_true]
    split <;> rfl
  · have none : entries[other]? = none := Array.getElem?_eq_none outside
    simp only [none, Nat.not_lt.mpr outside, and_false, if_false]
    split <;> rfl

/-- A field of an entry after the field of one entry was changed. -/
theorem field_getD_modify {α β : Type} (field : α → β) {entries : Array α} {position : Nat}
    {change : α → α} {next : β → β} (changes : ∀ entry, field (change entry) = next (field entry))
    (other : Nat) (absent : α) :
    field ((entries.modify position change).getD other absent) =
      if other = position ∧ other < entries.size then next (field (entries.getD other absent))
      else field (entries.getD other absent) := by
  rw [getD_modify]
  simp only [eq_comm (a := position)]
  split
  · exact changes _
  · rfl

/-- A change that leaves its entry as it is changes nothing. -/
theorem modify_eq_self {α : Type} {entries : Array α} {position : Nat} {change : α → α}
    {absent : α} (same : change (entries.getD position absent) = entries.getD position absent) :
    entries.modify position change = entries := by
  ext other inside below
  · exact Array.size_modify
  · rw [Array.getElem_modify]
    split
    case isTrue here =>
      subst here
      rw [← Array.getElem_eq_getD absent] at same
      exact same
    case isFalse => rfl

/-- A field of entries that a change of one entry leaves alone. -/
theorem getD_modify_field {α β : Type} {field : α → β} {change : α → α}
    (keeps : ∀ entry, field (change entry) = field entry) (entries : Array α)
    (position other : Nat) (absent : α) :
    field ((entries.modify position change).getD other absent) =
      field (entries.getD other absent) := by
  rw [getD_modify]
  split
  · exact keeps _
  · rfl

/-- A field that a change of all entries leaves alone. -/
theorem getD_map_field {α β : Type} (field : α → β) {change : α → α}
    (keeps : ∀ entry, field (change entry) = field entry) (entries : Array α) (position : Nat)
    (absent : α) :
    field ((entries.map change).getD position absent) = field (entries.getD position absent) := by
  rw [Array.getD_eq_getD_getElem?, Array.getD_eq_getD_getElem?, Array.getElem?_map]
  cases entries[position]? with
  | none => rfl
  | some entry => exact keeps entry

/-- What stands at a position after a change of all entries that leaves absent ones alone. -/
theorem getD_map_of_absent {α : Type} {change : α → α} {absent : α}
    (keeps : change absent = absent) (entries : Array α) (position : Nat) :
    (entries.map change).getD position absent = change (entries.getD position absent) := by
  rw [Array.getD_eq_getD_getElem?, Array.getD_eq_getD_getElem?, Array.getElem?_map]
  cases entries[position]? with
  | none => exact keeps.symm
  | some entry => rfl

/-- A change that a view of an entry does not see. -/
theorem map_modify_of_eq {α β : Type} {view : α → β} {change : α → α}
    (same : ∀ entry, view (change entry) = view entry) (entries : Array α) (position : Nat) :
    (entries.modify position change).map view = entries.map view := by
  refine Array.ext (by simp) fun index _ _ => ?_
  simp only [Array.getElem_map, Array.getElem_modify]
  split
  · exact same _
  · rfl

/-- The list of an entry after a new value was entered in the list of one entry. -/
theorem list_getD_modify {α β : Type} (list : α → List β) {entries : Array α} {position : Nat}
    {change : α → α} {value : β} (enters : ∀ entry, list (change entry) = list entry ++ [value])
    (inside : position < entries.size) (other : Nat) (absent : α) :
    list ((entries.modify position change).getD other absent) =
      if other = position then list (entries.getD other absent) ++ [value]
      else list (entries.getD other absent) := by
  rw [getD_modify]
  by_cases here : position = other
  · rw [if_pos ⟨here, here ▸ inside⟩, if_pos here.symm, enters]
  · rw [if_neg fun found => here found.1, if_neg (Ne.symm here)]

/-- What stands at a position after an entry was added at the end. -/
theorem getD_push {α : Type} (entries : Array α) (entry absent : α) (position : Nat) :
    (entries.push entry).getD position absent =
      if position = entries.size then entry else entries.getD position absent := by
  rw [Array.getD_eq_getD_getElem?, Array.getD_eq_getD_getElem?, Array.getElem?_push]
  split <;> rfl

/-- Beyond the end there is nothing. -/
theorem getD_of_size_le {α : Type} {entries : Array α} {absent : α} {position : Nat}
    (outside : entries.size ≤ position) : entries.getD position absent = absent := by
  rw [Array.getD_eq_getD_getElem?, Array.getElem?_eq_none outside]
  rfl

/-- A field that a new entry has not set. -/
theorem field_getD_push {α β : Type} (field : α → β) {entries : Array α} {added absent : α}
    (bare : field added = field absent) (position : Nat) :
    field ((entries.push added).getD position absent) = field (entries.getD position absent) := by
  rw [getD_push]
  split
  case isTrue last => rw [bare, getD_of_size_le (Nat.le_of_eq last.symm)]
  case isFalse => rfl

/-- An entry whose list has something exists. -/
theorem lt_size_of_mem {α β : Type} (list : α → List β) {entries : Array α} {absent : α}
    {position : Nat} {value : β} (listed : value ∈ list (entries.getD position absent))
    (empty : list absent = []) : position < entries.size := by
  by_contra outside
  rw [getD_of_size_le (Nat.le_of_not_lt outside), empty] at listed
  cases listed

section Fold

variable {α Entry : Type} (key : Entry → Nat) (change : Entry → α → α) (array : Array α)
  {entries : List Entry}

/-- What no change is about stays. -/
theorem getElem?_foldl_modify_of_not_mem {position : Nat}
    (absent : position ∉ entries.map key) :
    (entries.foldl (fun current entry => current.modify (key entry) (change entry))
      array)[position]? = array[position]? := by
  induction entries generalizing array with
  | nil => rfl
  | cons entry rest inductionHypothesis =>
    rw [List.map_cons, List.mem_cons, not_or] at absent
    rw [List.foldl_cons, inductionHypothesis _ absent.2, Array.getElem?_modify,
      if_neg (Ne.symm absent.1)]

/-- Changes of different entries do not disturb each other. -/
theorem getElem?_foldl_modify (once : (entries.map key).Nodup) {entry : Entry}
    (listed : entry ∈ entries) :
    (entries.foldl (fun current entry => current.modify (key entry) (change entry))
      array)[key entry]? = array[key entry]?.map (change entry) := by
  induction entries generalizing array with
  | nil => cases listed
  | cons first rest inductionHypothesis =>
    rw [List.map_cons, List.nodup_cons] at once
    rw [List.foldl_cons]
    rcases List.mem_cons.mp listed with rfl | listed
    · rw [getElem?_foldl_modify_of_not_mem key change _ once.1, Array.getElem?_modify, if_pos rfl]
    · have different : key first ≠ key entry := fun same =>
        once.1 (same ▸ List.mem_map_of_mem listed)
      rw [inductionHypothesis _ once.2 listed, Array.getElem?_modify, if_neg different]

/-- What stands at a position that no change is about. -/
theorem getD_foldl_modify_of_not_mem (absent : α) {position : Nat}
    (other : position ∉ entries.map key) :
    (entries.foldl (fun current entry => current.modify (key entry) (change entry))
      array).getD position absent = array.getD position absent := by
  rw [Array.getD_eq_getD_getElem?, Array.getD_eq_getD_getElem?]
  exact congrArg (Option.getD · absent) (getElem?_foldl_modify_of_not_mem key change array other)

/-- What stands at the position of one of several changes. -/
theorem getD_foldl_modify (absent : α) (once : (entries.map key).Nodup) {entry : Entry}
    (listed : entry ∈ entries) (inside : key entry < array.size) :
    (entries.foldl (fun current entry => current.modify (key entry) (change entry))
      array).getD (key entry) absent = change entry (array.getD (key entry) absent) := by
  have found := getElem?_foldl_modify key change array once listed
  rw [Array.getElem?_eq_getElem inside] at found
  rw [Array.getD_eq_getD_getElem?, Array.getD_eq_getD_getElem?, found,
    Array.getElem?_eq_getElem inside]
  rfl

/-- A field that the changes leave alone. -/
theorem getD_foldl_modify_field {β : Type} (field : α → β)
    (keeps : ∀ entry value, field (change entry value) = field value) (entries : List Entry)
    (absent : α) (position : Nat) :
    field ((entries.foldl (fun current entry => current.modify (key entry) (change entry))
      array).getD position absent) = field (array.getD position absent) := by
  induction entries generalizing array with
  | nil => rfl
  | cons entry rest inductionHypothesis =>
    rw [List.foldl_cons, inductionHypothesis, getD_modify]
    split
    · exact keeps entry _
    · rfl

theorem size_foldl_modify (entries : List Entry) :
    (entries.foldl (fun current entry => current.modify (key entry) (change entry))
      array).size = array.size := by
  induction entries generalizing array with
  | nil => rfl
  | cons entry rest inductionHypothesis =>
    rw [List.foldl_cons, inductionHypothesis, Array.size_modify]

end Fold

namespace Network

/-- The objects entered under a class are found in the index. -/
theorem mem_entered {network : Network} {kind : ClassKind} {name : String} {scope : Scope} :
    scope ∈ network.entered kind name ↔ (kind, name, scope) ∈ network.classIndex := by
  unfold entered
  constructor
  · intro listed
    obtain ⟨⟨entryKind, entryName, _⟩, found, rfl⟩ := List.mem_map.mp listed
    obtain ⟨inside, same⟩ := List.mem_filter.mp found
    simp only [Bool.and_eq_true, decide_eq_true_eq, beq_iff_eq] at same
    obtain ⟨rfl, rfl⟩ := same
    exact inside
  · intro listed
    refine List.mem_map.mpr ⟨_, List.mem_filter.mpr ⟨listed, ?_⟩, rfl⟩
    simp

variable (network : Network)

/-- A change of a node reaches that node alone. -/
theorem node_updateNode (id other : NodeId) (change : Node → Node) :
    (network.updateNode id change).node other =
      if id = other ∧ other < network.nodes.size then change (network.node other)
      else network.node other :=
  getD_modify network.nodes id other change default

/-- A change of an interface reaches that interface alone. -/
theorem interface_updateInterface (id other : InterfaceId) (change : Interface → Interface) :
    (network.updateInterface id change).interface other =
      if id = other ∧ other < network.interfaces.size then change (network.interface other)
      else network.interface other :=
  getD_modify network.interfaces id other change default

/-- A change of a connection reaches that connection alone. -/
theorem connection_updateConnection (id other : ConnectionId)
    (change : Connection → Connection) :
    (network.updateConnection id change).connection other =
      if id = other ∧ other < network.connections.size then change (network.connection other)
      else network.connection other :=
  getD_modify network.connections id other change default

@[simp]
theorem size_nodes_updateNode (id : NodeId) (change : Node → Node) :
    (network.updateNode id change).nodes.size = network.nodes.size :=
  Array.size_modify

@[simp]
theorem size_interfaces_updateInterface (id : InterfaceId) (change : Interface → Interface) :
    (network.updateInterface id change).interfaces.size = network.interfaces.size :=
  Array.size_modify

@[simp]
theorem size_connections_updateConnection (id : ConnectionId)
    (change : Connection → Connection) :
    (network.updateConnection id change).connections.size = network.connections.size :=
  Array.size_modify

/-- A field that a change of nodes leaves alone. -/
theorem node_updateNode_field {β : Type} {field : Node → β} {change : Node → Node}
    (keeps : ∀ node, field (change node) = field node) (id other : NodeId) :
    field ((network.updateNode id change).node other) = field (network.node other) :=
  getD_modify_field keeps network.nodes id other default

/-- A field that a change of interfaces leaves alone. -/
theorem interface_updateInterface_field {β : Type} {field : Interface → β}
    {change : Interface → Interface}
    (keeps : ∀ interface, field (change interface) = field interface) (id other : InterfaceId) :
    field ((network.updateInterface id change).interface other) =
      field (network.interface other) :=
  getD_modify_field keeps network.interfaces id other default

/-- A field that a change of connections leaves alone. -/
theorem connection_updateConnection_field {β : Type} {field : Connection → β}
    {change : Connection → Connection}
    (keeps : ∀ connection, field (change connection) = field connection) (id other : ConnectionId) :
    field ((network.updateConnection id change).connection other) =
      field (network.connection other) :=
  getD_modify_field keeps network.connections id other default

/-- A field that a change of groups leaves alone. -/
theorem group_updateGroup_field {β : Type} {field : Group → β} {change : Group → Group}
    (keeps : ∀ group, field (change group) = field group) (id other : GroupId) :
    field ((network.updateGroup id change).group other) = field (network.group other) :=
  getD_modify_field keeps network.groups id other default

/-- A field that a change of segments leaves alone. -/
theorem segment_updateSegment_field {β : Type} {field : Segment → β} {change : Segment → Segment}
    (keeps : ∀ segment, field (change segment) = field segment) (id other : SegmentId) :
    field ((network.updateSegment id change).segment other) = field (network.segment other) :=
  getD_modify_field keeps network.segments id other default

/-- A change that leaves its interface as it is changes nothing. -/
theorem updateInterface_eq_self {id : InterfaceId} {change : Interface → Interface}
    (same : change (network.interface id) = network.interface id) :
    network.updateInterface id change = network := by
  rw [updateInterface, modify_eq_self same]

/-- A change that leaves its connection as it is changes nothing. -/
theorem updateConnection_eq_self {id : ConnectionId} {change : Connection → Connection}
    (same : change (network.connection id) = network.connection id) :
    network.updateConnection id change = network := by
  rw [updateConnection, modify_eq_self same]

/-- A change that leaves its segment as it is changes nothing. -/
theorem updateSegment_eq_self {id : SegmentId} {change : Segment → Segment}
    (same : change (network.segment id) = network.segment id) :
    network.updateSegment id change = network := by
  rw [updateSegment, modify_eq_self same]

end Network

end TopoPlan
