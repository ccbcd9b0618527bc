import TopoPlan.Proofs.Dependency.Order

/-!
# Graphs of numbered entries

The vertices of a graph may be the entries of a list, with ids that are made of their
positions.  Such a graph has one vertex for each entry, and its ids are those of the
positions in the list.
-/

namespace TopoPlan.DependencyGraph

variable {Entry α : Type}

/-- The graph of the entries of a list, with ids made of their positions. -/
def numbered (idOf : Nat → String) (vertex : Entry → Nat → Vertex α) (entries : List Entry) :
    DependencyGraph α :=
  .ofList (entries.zipIdx.map fun entry => (idOf entry.2, vertex entry.1 entry.2))

variable {idOf : Nat → String} (vertex : Entry → Nat → Vertex α) {entries : List Entry}

/-- Every vertex is the one of an entry. -/
theorem exists_entry_of_numbered {id : String} {found : Vertex α}
    (look : (numbered idOf vertex entries)[id]? = some found) :
    ∃ position entry, entries[position]? = some entry ∧ id = idOf position ∧
      found = vertex entry position := by
  obtain ⟨⟨entry, position⟩, listed, same⟩ := List.mem_map.mp (mem_of_getElem?_ofList look)
  cases same
  exact ⟨position, entry, List.mk_mem_zipIdx_iff_getElem?.mp listed, rfl, rfl⟩

/-- Only positions in the list have ids that are in the graph. -/
theorem exists_position_of_mem {id : String} (member : id ∈ numbered idOf vertex entries) :
    ∃ position < entries.length, id = idOf position := by
  obtain ⟨found, look⟩ :=
    Option.isSome_iff_exists.mp (Std.ExtTreeMap.mem_iff_isSome_getElem?.mp member)
  obtain ⟨position, entry, listed, same, _⟩ := exists_entry_of_numbered vertex look
  exact ⟨position, (List.getElem?_eq_some_iff.mp listed).1, same⟩

variable (injective : Function.Injective idOf)

include injective

/-- Different positions have different ids. -/
theorem nodup_numbers (length : Nat) : ((List.range length).map idOf).Nodup :=
  List.nodup_range.map injective

/-- The vertex under the id of a position is the one of the entry there. -/
theorem getElem?_numbered {position : Nat} {entry : Entry}
    (listed : entries[position]? = some entry) :
    (numbered idOf vertex entries)[idOf position]? = some (vertex entry position) := by
  refine Table.getElem?_setAll_of_mem ?_
    (List.mem_map.mpr ⟨(entry, position), List.mk_mem_zipIdx_iff_getElem?.mpr listed, rfl⟩)
  have positions : (entries.zipIdx.map fun entry => idOf entry.2).Nodup := by
    have ids := nodup_numbers injective entries.length
    rw [List.range_eq_range', ← List.zipIdx_map_snd, List.map_map] at ids
    exact ids
  rw [List.map_map]
  exact positions

/-- The vertices of a numbered graph are the positions of the entries. -/
theorem mem_numbered {position : Nat} :
    idOf position ∈ numbered idOf vertex entries ↔ position < entries.length := by
  constructor
  · intro member
    obtain ⟨other, below, same⟩ := exists_position_of_mem vertex member
    exact injective same ▸ below
  · intro below
    rw [Std.ExtTreeMap.mem_iff_isSome_getElem?,
      getElem?_numbered vertex injective (List.getElem?_eq_getElem below)]
    rfl

/-- A dependency order lists the ids of all positions. -/
theorem DependencyOrder.perm_numbers {ids : List String}
    (order : (numbered idOf vertex entries).DependencyOrder ids) :
    ids.Perm ((List.range entries.length).map idOf) := by
  refine (List.perm_ext_iff_of_nodup order.once (nodup_numbers injective _)).mpr fun id => ?_
  rw [order.mem_iff, List.mem_map]
  constructor
  · intro member
    obtain ⟨position, below, rfl⟩ := exists_position_of_mem vertex member
    exact ⟨position, List.mem_range.mpr below, rfl⟩
  · rintro ⟨position, below, rfl⟩
    exact (mem_numbered vertex injective).mpr (List.mem_range.mp below)

end TopoPlan.DependencyGraph
