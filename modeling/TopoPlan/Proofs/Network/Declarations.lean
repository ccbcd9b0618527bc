import TopoPlan.Proofs.Network.ClassRecords

/-!
# Declarations of members

An object gets its declarations of members from classes.  `DeclaredBy` says that all
declarations are those of the classes of a configuration, which holds of the network of
a topology and is kept until members are added.
-/

namespace TopoPlan

open ClassEffects
open TopoPlan.Membership (declarationsOf)

/-- The declarations of a configuration are those of its classes of nodes, interfaces and
connections. -/
theorem Config.mem_memberDeclarations {config : Config} {declaration : String × MemberClass} :
    declaration ∈ config.memberDeclarations ↔
      (∃ definition ∈ config.nodeClasses,
        declaration ∈ declarations definition.name definition.members) ∨
      (∃ definition ∈ config.interfaceClasses,
        declaration ∈ declarations definition.name definition.members) ∨
      ∃ definition ∈ config.connectionClasses,
        declaration ∈ declarations definition.name definition.members := by
  simp only [memberDeclarations, declarations, List.flatMap_append, List.flatMap_map,
    List.mem_append, List.mem_flatMap, or_assoc]

/-- The declarations of an interface on which the classes of its connection have acted. -/
theorem Interface.memberClasses_withConnection {config : Config} {interface : Interface}
    (connection : Connection) (declared : interface.memberClasses ⊆ config.memberDeclarations) :
    (interface.withConnection config connection).memberClasses ⊆ config.memberDeclarations := by
  let sound (acted : Interface) : Prop := acted.memberClasses ⊆ config.memberDeclarations
  refine List.foldlRecOn (motive := sound) _ _ declared fun acted holds definition listed => ?_
  obtain ⟨name, _, found⟩ := List.mem_filterMap.mp listed
  refine List.append_subset.mpr ⟨holds, fun declaration declares => ?_⟩
  exact Config.mem_memberDeclarations.mpr
    (.inr (.inr ⟨definition, List.mem_of_find?_eq_some found, declares⟩))

namespace Network

/-- All declarations of members are those of the classes of a configuration. -/
def DeclaredBy (config : Config) (network : Network) : Prop :=
  ∀ scope, declarationsOf network scope ⊆ config.memberDeclarations

section Changes

variable {config : Config} {network : Network}

/-- Where the declarations come from depends on the declarations alone. -/
theorem DeclaredBy.congr {after : Network} (declared : network.DeclaredBy config)
    (same : ∀ scope, declarationsOf after scope = declarationsOf network scope) :
    after.DeclaredBy config :=
  fun scope => (same scope).symm ▸ declared scope

/-- The list of an entry stays within bounds that a change of one entry respects. -/
theorem subset_getD_modify {α β : Type} (list : α → List β) {entries : Array α} {bound : List β}
    {change : α → α} (adds : ∀ entry, list entry ⊆ bound → list (change entry) ⊆ bound)
    {position other : Nat} {absent : α} (within : list (entries.getD other absent) ⊆ bound) :
    list ((entries.modify position change).getD other absent) ⊆ bound := by
  rw [getD_modify]
  split
  · exact adds _ within
  · exact within

/-- A node may be given declarations of the configuration. -/
theorem DeclaredBy.updateNode (declared : network.DeclaredBy config) {change : Node → Node}
    (adds : ∀ node, node.memberClasses ⊆ config.memberDeclarations →
      (change node).memberClasses ⊆ config.memberDeclarations) (id : NodeId) :
    (network.updateNode id change).DeclaredBy config := by
  intro scope
  cases scope with
  | node other => exact subset_getD_modify Node.memberClasses adds (declared (.node other))
  | interface other => exact declared (.interface other)
  | connection other => exact declared (.connection other)
  | _ => exact List.nil_subset _

/-- An interface may be given declarations of the configuration. -/
theorem DeclaredBy.updateInterface (declared : network.DeclaredBy config)
    {change : Interface → Interface}
    (adds : ∀ interface, interface.memberClasses ⊆ config.memberDeclarations →
      (change interface).memberClasses ⊆ config.memberDeclarations) (id : InterfaceId) :
    (network.updateInterface id change).DeclaredBy config := by
  intro scope
  cases scope with
  | interface other =>
    exact subset_getD_modify Interface.memberClasses adds (declared (.interface other))
  | node other => exact declared (.node other)
  | connection other => exact declared (.connection other)
  | _ => exact List.nil_subset _

/-- A connection may be given declarations of the configuration. -/
theorem DeclaredBy.updateConnection (declared : network.DeclaredBy config)
    {change : Connection → Connection}
    (adds : ∀ connection, connection.memberClasses ⊆ config.memberDeclarations →
      (change connection).memberClasses ⊆ config.memberDeclarations) (id : ConnectionId) :
    (network.updateConnection id change).DeclaredBy config := by
  intro scope
  cases scope with
  | connection other =>
    exact subset_getD_modify Connection.memberClasses adds (declared (.connection other))
  | node other => exact declared (.node other)
  | interface other => exact declared (.interface other)
  | _ => exact List.nil_subset _

/-- An entry in the index of classes declares nothing. -/
theorem DeclaredBy.enter (declared : network.DeclaredBy config) (kind : ClassKind)
    (className : String) (scope : Scope) :
    (network.enter kind className scope).DeclaredBy config := by
  refine declared.congr fun other => ?_
  rw [enter_eq]
  cases other <;> rfl

/-- An interface without declarations may be added. -/
theorem DeclaredBy.addInterface (declared : network.DeclaredBy config) (added : Interface)
    (bare : added.memberClasses = []) : (network.addInterface added).DeclaredBy config := by
  refine declared.congr fun scope => ?_
  cases scope with
  | node id => exact node_addInterface_field Node.memberClasses (fun _ _ => rfl) added id
  | interface id => exact interface_addInterface_field Interface.memberClasses bare id
  | _ => rfl

/-- A connection without declarations may be added. -/
theorem DeclaredBy.addConnection (declared : network.DeclaredBy config) (added : Connection)
    (bare : added.memberClasses = []) : (network.addConnection added).DeclaredBy config := by
  refine declared.congr fun scope => ?_
  cases scope with
  | interface id =>
    exact interface_addConnection_field network Interface.memberClasses (fun _ _ => rfl) added id
  | connection id => exact field_getD_push Connection.memberClasses bare id
  | _ => rfl

/-- An edge declares nothing when it is added. -/
theorem DeclaredBy.addEdge (declared : network.DeclaredBy config) (edge : GraphEdge)
    (source target : NodeId) : (network.addEdge edge source target).DeclaredBy config :=
  ((declared.addInterface _ rfl).addInterface _ rfl).addConnection _ rfl

/-- Groups declare no members. -/
theorem DeclaredBy.addGroup (declared : network.DeclaredBy config) (added : Group) :
    (network.addGroup added).DeclaredBy config := by
  refine List.foldlRecOn added.nodes _ ?_ fun current holds id _ => ?_
  · exact declared.congr fun scope => by cases scope <;> rfl
  · exact holds.updateNode (fun _ declared => by exact declared) id

/-- A member declares nothing. -/
theorem DeclaredBy.addMember (declared : network.DeclaredBy config) (member : Member) :
    (network.addMember member).DeclaredBy config := by
  refine (Frame.ofInvariant (DeclaredBy config)).addMember ?_ ?_ ?_ ?_ member declared
  · exact fun _ declared => declared.congr fun scope => by cases scope <;> rfl
  · exact fun _ id _ declared => declared.updateNode (fun _ declared => by exact declared) id
  · exact fun _ id _ declared => declared.updateInterface (fun _ declared => by exact declared) id
  · exact fun _ id _ declared => declared.updateConnection (fun _ declared => by exact declared) id

/-- Names are no declarations. -/
theorem declaredBy_nameless : (Frame.ofInvariant (DeclaredBy config)).Nameless where
  node _ id _ declared := declared.updateNode (fun _ declared => by exact declared) id
  interface _ id _ declared := declared.updateInterface (fun _ declared => by exact declared) id
  connection _ id _ declared := declared.updateConnection (fun _ declared => by exact declared) id

/-- A class gives an object its own declarations. -/
theorem DeclaredBy.classStep {after : Network} (declared : network.DeclaredBy config)
    (step : ClassStep config network after) : after.DeclaredBy config := by
  cases step with
  | startNode id => exact declared.updateNode (fun _ declared => by exact declared) id
  | node id _ _ acts =>
    obtain ⟨definition, listed, _, _⟩ := acts
    have given : ((network.enter .node definition.name (.node id)).giveInterfaces config
        (network.node id).interfaces definition.interfacePolicies).DeclaredBy config := by
      unfold giveInterfaces
      refine List.foldlRecOn _ _ (declared.enter _ _ _) fun current holds policy _ => ?_
      refine List.foldlRecOn _ _ holds fun current holds port _ => ?_
      exact holds.updateInterface (fun _ declared => by exact declared) port
    refine given.updateNode (fun node declared => ?_) id
    refine List.append_subset.mpr ⟨declared, fun declaration declares => ?_⟩
    exact Config.mem_memberDeclarations.mpr (.inl ⟨definition, listed, declares⟩)
  | startConnection id => exact declared.updateConnection (fun _ declared => by exact declared) id
  | connection id _ _ acts =>
    obtain ⟨definition, listed, _, _⟩ := acts
    refine (declared.enter _ _ _).updateConnection (fun connection declared => ?_) id
    refine List.append_subset.mpr ⟨declared, fun declaration declares => ?_⟩
    exact Config.mem_memberDeclarations.mpr (.inr (.inr ⟨definition, listed, declares⟩))
  | startInterface id =>
    unfold Network.startInterface
    dsimp only
    split
    · refine (declared.updateInterface (fun _ declared => by exact declared) id).updateInterface
        (fun interface declared => ?_) id
      exact interface.memberClasses_withConnection _ declared
    · exact declared.updateInterface (fun _ declared => by exact declared) id
  | interface id _ _ acts =>
    obtain ⟨definition, listed, _, _⟩ := acts
    have widened : ((network.enter .interface definition.name (.interface id)).widen id
        definition).DeclaredBy config := by
      unfold widen
      split
      · exact (declared.enter _ _ _).updateConnection (fun _ declared => by exact declared) _
      · exact declared.enter _ _ _
    refine widened.updateInterface (fun interface declared => ?_) id
    refine List.append_subset.mpr ⟨declared, fun declaration declares => ?_⟩
    exact Config.mem_memberDeclarations.mpr (.inr (.inl ⟨definition, listed, declares⟩))
  | group id _ _ acts =>
    obtain ⟨definition, _, _⟩ := acts
    exact (declared.enter _ _ _).congr fun scope => by cases scope <;> rfl

end Changes

open Stage

variable {config : Config} {network after : Network}

/-- Before classes act nothing is declared. -/
theorem declaredBy_of_ofTopology {other : Config} {topology : Topology} {built : Network}
    (made : ofTopology other topology = .ok built) : built.DeclaredBy config := by
  refine ofTopology_induction made (fun parameters scope => ?_)
    (fun _ edge source target _ _ declared => declared.addEdge edge source target)
    fun _ given nodes _ declared => declared.addGroup _
  cases scope with
  | node id =>
    dsimp only [declarationsOf]
    rw [node_of_nodes Node.memberClasses topology.nodes _ parameters rfl (fun _ => rfl) id]
    exact List.nil_subset _
  | _ => exact List.nil_subset _

/-- Objects have the declarations of classes after all classes have acted. -/
theorem DeclaredBy.resolveClasses {extra : ExtraClasses} (declared : network.DeclaredBy config)
    (run : (ClassEffects.resolveClasses config extra).outcome network = (.ok (), after)) :
    after.DeclaredBy config := by
  obtain ⟨classified, chain, rfl⟩ := resolveClasses_steps run
  have objects : classified.DeclaredBy config := by
    clear run
    induction chain with
    | refl => exact declared
    | tail _ last inductionHypothesis => exact inductionHypothesis.classStep last
  refine List.foldlRecOn _ _ objects fun current holds definition _ => ?_
  exact (holds.enter .network definition.name .network).congr fun scope => by cases scope <;> rfl

/-- A management interface has the declarations of its classes. -/
theorem DeclaredBy.addInterfaces (declared : network.DeclaredBy config)
    (run : (Management.addInterfaces config).outcome network = (.ok (), after)) :
    after.DeclaredBy config := by
  refine Management.addInterfaces_induction (fun network node name className _ _ declared => ?_)
    (fun _ _ _ inside acts declared => declared.classStep (.interface _ _ inside acts)) run declared
  exact (declared.addInterface _ rfl).updateNode (fun _ declared => by exact declared) node

end Network

end TopoPlan
