import TopoPlan.Proofs.Network.OwnDeclarations
import TopoPlan.Proofs.Network.WellFormed

/-!
# Members by declaration

Members are added for the declarations of objects, when all classes, those of management
interfaces too, have been entered.  `MembersDeclared` says which members an object has by
the end, in terms of the classes of objects alone; the main statement is
`membersDeclared_of_resolve`.
-/

namespace TopoPlan

open ClassEffects
open TopoPlan.Membership (declarationsOf referrers)

/-! ## Members that are added -/

namespace Membership

open Network Stage

/-- The members that a declaration gives an object. -/
def givenMembers (network : Network) (referrer : Scope) (declaration : MemberClass) :
    List Member :=
  match declaration.target with
  | .error _ => []
  | .ok (kind, names) => names.flatMap (membersOf network referrer declaration.includeSelf kind)

/-- The members that the declarations of all objects give them. -/
def allMembers (network : Network) : List Member :=
  (referrers network).flatMap fun referrer =>
    (declarationsOf network referrer).flatMap fun declaration =>
      givenMembers network referrer declaration.2

/-- A declaration gives the entered objects that it specifies, the referrer only if it says so. -/
theorem mem_givenMembers {network : Network} {referrer : Scope} {declaration : MemberClass}
    {member : Member} :
    member ∈ givenMembers network referrer declaration ↔
      ∃ kind className target, declaration.Specifies kind className ∧
        target ∈ network.entered kind className ∧
        (target ≠ referrer ∨ declaration.includeSelf = true) ∧
        member = { kind, className, referrer, member := target } := by
  unfold givenMembers
  constructor
  · intro listed
    split at listed
    case h_1 => cases listed
    case h_2 kind names target =>
      obtain ⟨className, named, listed⟩ := List.mem_flatMap.mp listed
      obtain ⟨found, filtered, rfl⟩ := List.mem_map.mp listed
      obtain ⟨entered, other⟩ := List.mem_filter.mp filtered
      exact ⟨kind, className, found, ⟨names, target, named⟩, entered, by simpa using other, rfl⟩
  · rintro ⟨kind, className, found, ⟨names, target, named⟩, entered, other, rfl⟩
    rw [target]
    refine List.mem_flatMap.mpr ⟨className, named, List.mem_map.mpr ⟨found, ?_, rfl⟩⟩
    exact List.mem_filter.mpr ⟨entered, by simpa using other⟩

variable {config : Config} {origin network after : Network}

/-- Stages that add members one after the other, as the same network would have it, add all
of them. -/
theorem foldl_addMember_of_forM {γ : Type} {entries : List γ} {stage : γ → Stage PUnit}
    {made : γ → List Member}
    (each : ∀ entry ∈ entries, ∀ before next, SameDeclarations origin before →
      (stage entry).outcome before = (.ok ⟨⟩, next) → next = (made entry).foldl addMember before)
    (same : SameDeclarations origin network)
    (run : (entries.forM stage).outcome network = (.ok ⟨⟩, after)) :
    after = (entries.flatMap made).foldl addMember network := by
  induction entries generalizing network with
  | nil =>
    cases run
    rfl
  | cons entry rest inductionHypothesis =>
    obtain ⟨middle, first, others⟩ := outcome_forM_cons_eq_ok.mp run
    obtain rfl := each entry List.mem_cons_self network middle same first
    rw [List.flatMap_cons, List.foldl_append]
    -- What was added changes neither declarations nor the index that the rest is read from.
    refine inductionHypothesis (fun entry listed => each entry (List.mem_cons_of_mem _ listed))
      (sameDeclarations.trans same ?_) others
    exact sameDeclarations.foldl (fun current => current) sameDeclarations_addMember _ _

/-- Members are added for a declaration that names classes of one kind. -/
theorem addDeclared_eq_ok {referrer : Scope} {declaration : String × MemberClass}
    (same : SameDeclarations origin network)
    (run : (addDeclared config referrer declaration).outcome network = (.ok (), after)) :
    after = (givenMembers origin referrer declaration.2).foldl addMember network := by
  unfold addDeclared at run
  split at run
  case h_1 => cases run
  case h_2 kind names target =>
    rw [givenMembers, target]
    refine foldl_addMember_of_forM (fun className _ before next same step => ?_) same run
    rw [addMembers, outcome_get_bind] at step
    dsimp only at step
    split at step
    · cases step
    · have entered : before.entered kind className = origin.entered kind className := by
        rw [Network.entered, same.records.1, Network.entered]
      obtain rfl := outcome_set_eq_ok.mp step
      rw [membersOf, entered, membersOf]

/-- The last stage of a resolution adds the members of all objects. -/
theorem build_eq_ok (run : (build config).outcome network = (.ok (), after)) :
    after = (allMembers network).foldl addMember network := by
  rw [build, outcome_get_bind] at run
  refine foldl_addMember_of_forM (fun referrer _ before next same step => ?_)
    (sameDeclarations.refl network) run
  rw [outcome_get_bind, same.declared] at step
  exact foldl_addMember_of_forM (fun declaration _ _ _ same step => addDeclared_eq_ok same step)
    same step

/-- Members are appended in the order in which they are given. -/
theorem members_foldl_addMember (members : List Member) (network : Network) :
    (members.foldl addMember network).members.toList = network.members.toList ++ members := by
  induction members generalizing network with
  | nil => exact (List.append_nil _).symm
  | cons member rest inductionHypothesis =>
    rw [List.foldl_cons, inductionHypothesis, members_addMember, Array.toList_push,
      List.append_assoc, List.singleton_append]

end Membership

namespace Network

open Stage

/-- One object is a member of another one, as an object of a class. -/
def HasMember (network : Network) (referrer : Scope) (kind : ClassKind) (className : String)
    (target : Scope) : Prop :=
  ∃ member ∈ network.members, member.referrer = referrer ∧ member.kind = kind ∧
    member.className = className ∧ member.member = target

/-- The members of objects are those that their classes declare, and every member is listed
at its referrer. -/
structure MembersDeclared (config : Config) (network : Network) : Prop where
  declared : ∀ referrer kind className target,
    network.HasMember referrer kind className target ↔
      ∃ declaration, Declares config network referrer declaration ∧
        declaration.Specifies kind className ∧ target.classKind? = some kind ∧
        className ∈ network.classesOf target ∧
        (target ≠ referrer ∨ declaration.includeSelf = true)
  listed : ∀ id < network.members.size, id ∈ network.membersAt (network.member id).referrer

/-- An object with declarations is one of those that may declare members. -/
theorem mem_referrers_of_declared {network : Network} {scope : Scope}
    {declaration : String × MemberClass}
    (declared : declaration ∈ declarationsOf network scope) : scope ∈ referrers network := by
  unfold referrers nodeIds interfaceIds connectionIds
  cases scope with
  | node id =>
    have inside : id < network.nodes.size := lt_size_of_mem Node.memberClasses declared rfl
    simp [inside]
  | interface id =>
    have inside : id < network.interfaces.size :=
      lt_size_of_mem Interface.memberClasses declared rfl
    simp [inside]
  | connection id =>
    have inside : id < network.connections.size :=
      lt_size_of_mem Connection.memberClasses declared rfl
    simp [inside]
  | _ => cases declared

section Resolution

variable {config : Config} {topology : Topology} {extra : ExtraClasses}
  {built managed resolved : Network}

/-- Members are added for the declarations of classes, and for no others. -/
theorem hasMember_iff_of_build (valid : config.validate = .ok ())
    (own : managed.DeclareOwn config) (start : managed.members = #[])
    (recorded : resolved.Recorded)
    (run : (Membership.build config).outcome managed = (.ok (), resolved)) (referrer : Scope)
    (kind : ClassKind) (className : String) (target : Scope) :
    resolved.HasMember referrer kind className target ↔
      ∃ declaration, Declares config resolved referrer declaration ∧
        declaration.Specifies kind className ∧ target.classKind? = some kind ∧
        className ∈ resolved.classesOf target ∧
        (target ≠ referrer ∨ declaration.includeSelf = true) := by
  have all := Membership.build_eq_ok run
  have same : SameDeclarations managed resolved := by
    rw [all]
    exact sameDeclarations.foldl (fun current => current) sameDeclarations_addMember _ _
  have listed (member : Member) :
      member ∈ resolved.members ↔ member ∈ Membership.allMembers managed := by
    rw [← Array.mem_toList_iff, all, Membership.members_foldl_addMember, start]
    rfl
  have entered (kind : ClassKind) (className : String) (target : Scope) :
      target ∈ managed.entered kind className ↔
        target.classKind? = some kind ∧ className ∈ resolved.classesOf target := by
    rw [← recorded.entered kind className target, same.records.1]
    exact mem_entered
  have declares (scope : Scope) (declaration : MemberClass) :
      Declares config resolved scope declaration ↔
        ∃ name, (name, declaration) ∈ declarationsOf managed scope := by
    rw [← same.declared]
    exact declares_iff valid (own.congr same)
  constructor
  · rintro ⟨member, added, rfl, rfl, rfl, rfl⟩
    obtain ⟨referrer, _, added⟩ := List.mem_flatMap.mp ((listed member).mp added)
    obtain ⟨⟨name, declaration⟩, declared, added⟩ := List.mem_flatMap.mp added
    obtain ⟨kind, className, target, specifies, indexed, other, rfl⟩ :=
      Membership.mem_givenMembers.mp added
    obtain ⟨ofKind, has⟩ := (entered kind className target).mp indexed
    exact ⟨declaration, (declares referrer declaration).mpr ⟨name, declared⟩, specifies, ofKind,
      has, other⟩
  · rintro ⟨declaration, declared, specifies, ofKind, has, other⟩
    obtain ⟨name, declared⟩ := (declares referrer declaration).mp declared
    refine ⟨{ kind, className, referrer, member := target }, (listed _).mpr ?_, rfl, rfl, rfl, rfl⟩
    refine List.mem_flatMap.mpr ⟨referrer, mem_referrers_of_declared declared, ?_⟩
    refine List.mem_flatMap.mpr ⟨(name, declaration), declared, ?_⟩
    exact Membership.mem_givenMembers.mpr ⟨kind, className, target, specifies,
      (entered kind className target).mpr ⟨ofKind, has⟩, other, rfl⟩

/-- In a resolved network the members of objects are those that their classes declare. -/
theorem membersDeclared_of_resolve (valid : config.validate = .ok ())
    (made : ofTopology config topology = .ok built)
    (run : (resolve config extra).outcome built = (.ok (), resolved)) :
    resolved.MembersDeclared config := by
  obtain ⟨classified, named, managed, classes, names, management, members⟩ := resolve_eq_ok run
  let ready (network : Network) : Prop :=
    network.DeclareOwn config ∧ network.members.size = 0
  have start : ready named := by
    have counts := (ClassEffects.resolveClasses_within counted_tolerant extra).holds classes
    have renamed := names counted counted_tolerant.nameless
    refine ⟨(declareOwn_of_resolveClasses valid made classes).congr
      (names sameDeclarations sameDeclarations_nameless), ?_⟩
    exact (congrArg Counts.members (renamed.trans counts)).trans
      (congrArg Array.size (plain_of_ofTopology made).members)
  have widened : ready managed := Management.addInterfaces_induction
    (fun network node name className _ _ known =>
      ⟨known.1.congr (network.sameDeclarations_addManagement node name className), known.2⟩)
    (fun _ _ _ inside acts known => ⟨known.1.interfaceActs valid inside acts,
      (congrArg Counts.members (ClassStep.interface _ _ inside acts).counts).trans known.2⟩)
    management start
  have recorded := recorded_of_resolve (Config.networkClassNames_nodup valid) made run
  have coherent := (assembled_of_resolve made run).coherent
  exact ⟨hasMember_iff_of_build valid widened.1 (Array.eq_empty_of_size_eq_zero widened.2)
    recorded members, fun id inside => coherent.members.mem_iff.mpr ⟨inside, rfl⟩⟩

end Resolution

end Network

namespace Harbor

open Network

/-- Hosts declare each other and the management interfaces; a link declares itself. -/
def config : Config where
  name := "harbor"
  management := some { name := "oob", range := "192.168.0.0/24" }
  nodeClasses := [{ name := "pier"
                    primary := true
                    managementClass := some "console"
                    members := [{ node := "pier" }, { interface := "console" }] }]
  interfaceClasses := [{ name := "console" }]
  connectionClasses := [{ name := "rope", members := [cable] }]
where
  /-- The declaration of links. -/
  cable : MemberClass := { connections := ["rope"], includeSelf := true }

/-- Two linked hosts. -/
def topology : Topology where
  nodes := [{ name := "a", labels := ["pier"] }, { name := "b", labels := ["pier"] }]
  edges := [{ source := "a", target := "b", labels := ["rope"] }]

/-- The network of the topology. -/
def built : Network := (ofTopology config topology).toOption.getD {}

/-- The network after resolution. -/
def resolved : Network := ((resolve config {}).outcome built).2

/-- The configuration is valid. -/
theorem config_valid : config.validate = .ok () := by decide +kernel

theorem built_of_topology : ofTopology config topology = .ok built :=
  Outcome.eq_ok_of_isOk {} (by decide +kernel)

theorem resolved_of_built : (resolve config {}).outcome built = (.ok (), resolved) :=
  Stage.outcome_eq_ok (by decide +kernel)

/-- A host has the management interface of the other one as a member, but not itself; the link
is a member of its ends and of itself. -/
theorem hosts_and_link_declared :
    config.validate = .ok () ∧ ofTopology config topology = .ok built ∧
      (resolve config {}).outcome built = (.ok (), resolved) ∧
      resolved.HasMember (.node 1) .interface "console" (.interface 2) ∧
      ¬ resolved.HasMember (.node 1) .node "pier" (.node 1) ∧
      resolved.HasMember (.interface 1) .connection "rope" (.connection 0) ∧
      resolved.HasMember (.connection 0) .connection "rope" (.connection 0) := by
  have declared :=
    (membersDeclared_of_resolve config_valid built_of_topology resolved_of_built).declared
  have link : Declares config resolved (.connection 0) config.cable :=
    .connection (List.mem_singleton_self _) (by decide +kernel) (List.mem_singleton_self _)
  refine ⟨config_valid, built_of_topology, resolved_of_built, (declared ..).mpr ?_,
    fun itself => ?_, (declared ..).mpr ?_, (declared ..).mpr ?_⟩
  · refine ⟨{ interface := "console" }, ?_, ⟨["console"], rfl, List.mem_singleton_self _⟩, rfl,
      by decide +kernel, .inl nofun⟩
    exact .node (List.mem_singleton_self _) (by decide +kernel)
      (List.mem_cons_of_mem _ (List.mem_singleton_self _))
  · obtain ⟨declaration, declares, _, _, _, other⟩ := (declared ..).mp itself
    cases declares with
    | node defined _ listed =>
      obtain rfl := List.mem_singleton.mp defined
      rcases List.mem_pair.mp listed with rfl | rfl <;> simp at other
  · exact ⟨config.cable, .line (by decide +kernel) link,
      ⟨["rope"], rfl, List.mem_singleton_self _⟩, rfl, by decide +kernel, .inl nofun⟩
  · exact ⟨config.cable, link, ⟨["rope"], rfl, List.mem_singleton_self _⟩, rfl,
      by decide +kernel, .inr rfl⟩

end Harbor

end TopoPlan
