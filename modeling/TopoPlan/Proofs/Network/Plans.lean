import Mathlib.Data.List.Nodup
import TopoPlan.Network.SegmentPlan
import TopoPlan.Proofs.Address.Intervals
import TopoPlan.Proofs.Outcomes

/-!
# What plans say

The plan of a segment that was made without failure agrees with the policies and the
explicit data of the segment.  `Describes` collects what a plan says, and
`describes_of_ofSegment` is the main statement; whether the data determine a subnet is
exact, so a plan without a subnet has no explicit data.
-/

namespace TopoPlan

/-- A parameter is there when it has a value. -/
theorem Parameters.has_eq_isSome (parameters : Parameters) (key : String) :
    parameters.has key = (parameters.get? key).isSome :=
  Std.ExtTreeMap.contains_eq_isSome_getElem?

variable (network : Network) (layer : Layer)

namespace Network

/-- The explicit subnet of a connection in a layer, as written. -/
def givenSubnet? (id : ConnectionId) : Option String :=
  (network.connection id).parameters.get? (subnetKey layer.name)

/-- The explicit address of an interface in a layer, as written. -/
def givenAddress? (id : InterfaceId) : Option String :=
  (network.interface id).parameters.get? (addressKey layer.name)

/-- A segment has an explicit subnet on a connection or an explicit address on an
interface. -/
def HasExplicit (id : SegmentId) : Prop :=
  (∃ connection ∈ (network.segment id).connections,
      (network.givenSubnet? layer connection).isSome = true) ∨
    ∃ port ∈ (network.segment id).interfaces, (network.givenAddress? layer port).isSome = true

instance (id : SegmentId) : Decidable (network.HasExplicit layer id) :=
  inferInstanceAs (Decidable (_ ∨ _))

end Network

namespace SegmentPlan

/-- The name of a policy that serves segments of the layer. -/
def ServesSegments (config : Config) (name : String) : Prop :=
  ∃ found definition, config.policy? name = some (found, definition) ∧
    found.name = layer.name ∧ definition.kind = .ip

/-- What a plan says about a segment. -/
structure Describes (config : Config) (id : SegmentId) (plan : SegmentPlan) : Prop where
  segment : plan.segment = id
  policy : ∀ port ∈ (network.segment id).interfaces, ∀ name,
    (network.interface port).policies[layer.name]? = some name → plan.policy = some name
  needed : ∀ port ∈ (network.segment id).interfaces, network.givenAddress? layer port = none →
    (network.interface port).policies[layer.name]?.isSome = true
  serves : ∀ name, plan.policy = some name → ServesSegments layer config name
  waiting : plan.waiting = (network.segment id).interfaces.filter fun port =>
    (network.givenAddress? layer port).isNone
  reserved : plan.reserved.map Prod.fst = (network.segment id).interfaces.filter fun port =>
    (network.givenAddress? layer port).isSome
  addresses : ∀ entry ∈ plan.reserved, ∃ text, network.givenAddress? layer entry.1 = some text ∧
    Address.parseHost? text = some entry.2
  inside : ∀ subnet, plan.subnet = some subnet → ∀ entry ∈ plan.reserved,
    subnet.contains entry.2 = true
  connections : ∀ connection ∈ (network.segment id).connections, ∀ text,
    network.givenSubnet? layer connection = some text →
      ∃ subnet, plan.subnet = some subnet ∧ Subnet.parse text = .ok subnet
  explicit : plan.subnet.isSome = true ↔ network.HasExplicit layer id

variable {network layer} {config : Config} {segment : Segment}

/-- A subnet that is read is the one that its text gives. -/
theorem readSubnet_eq_ok {text : String} {subnet : Subnet} (read : readSubnet text = .ok subnet) :
    Subnet.parse text = .ok subnet := by
  unfold readSubnet at read
  split at read
  case h_1 found parsed =>
    cases read
    exact parsed
  case h_2 => cases read

/-- An address that is read is the host address that its text gives. -/
theorem readAddress_eq_ok {text : String} {address : Address}
    (read : readAddress text = .ok address) : Address.parseHost? text = some address := by
  unfold readAddress at read
  split at read
  case h_1 found parsed =>
    cases read
    exact parsed
  case h_2 => cases read

/-- The policy of an interface serves segments of the layer; without a policy there is
an explicit address. -/
theorem policyOf_eq_ok {id : InterfaceId} {policy : Option String}
    (run : policyOf network config layer id = .ok policy) :
    policy = (network.interface id).policies[layer.name]? ∧
      (policy = none → (network.givenAddress? layer id).isSome = true) ∧
      ∀ name, policy = some name → ServesSegments layer config name := by
  unfold policyOf at run
  dsimp only at run
  split at run
  case h_1 none =>
    split at run
    case isTrue has =>
      cases run
      refine ⟨none.symm, ?_, fun _ some => nomatch some⟩
      intro _
      rw [Parameters.has_eq_isSome] at has
      exact has
    case isFalse => cases run
  case h_2 name found =>
    split at run
    case h_1 => cases run
    case h_2 owner definition look =>
      split at run
      case isTrue serves =>
        cases run
        refine ⟨found.symm, (fun none => nomatch none), ?_⟩
        intro other same
        cases same
        simp only [Bool.and_eq_true, beq_iff_eq, decide_eq_true_eq] at serves
        exact ⟨owner, definition, look, serves⟩
      case isFalse => cases run

/-- One more policy is accepted where there is none yet or where it is the same. -/
theorem agree_policy_eq_ok {own chosen next : Option String} {error : String → String → CompileError}
    (step : (match own, chosen with
      | some policy, some current =>
        if current == policy then (pure chosen : Except CompileError (Option String))
        else throw (error current policy)
      | some policy, none => pure (some policy)
      | none, _ => pure chosen) = .ok next) :
    Outcome.Agrees own chosen next := by
  cases own with
  | none =>
    cases chosen <;> cases step <;> exact .inl ⟨rfl, rfl⟩
  | some name =>
    cases chosen with
    | none =>
      cases step
      exact .inr ⟨name, rfl, rfl, .inl rfl⟩
    | some current =>
      dsimp only at step
      split at step
      case isTrue same =>
        cases step
        rw [beq_iff_eq] at same
        subst same
        exact .inr ⟨current, rfl, rfl, .inr rfl⟩
      case isFalse => cases step

/-- The policy of a segment is the one of each interface that has a policy. -/
theorem segmentPolicy_eq_ok {policy : Option String}
    (run : segmentPolicy network config layer segment = .ok policy) :
    (∀ port ∈ segment.interfaces, ∀ name,
      (network.interface port).policies[layer.name]? = some name → policy = some name) ∧
    (∀ port ∈ segment.interfaces, network.givenAddress? layer port = none →
      (network.interface port).policies[layer.name]?.isSome = true) ∧
    ∀ name, policy = some name → ServesSegments layer config name := by
  have looks : ∀ port ∈ segment.interfaces,
      policyOf network config layer port = .ok (network.interface port).policies[layer.name]? := by
    intro port listed
    obtain ⟨_, _, step⟩ := Outcome.exists_step_of_foldlM run port listed
    obtain ⟨own, look, _⟩ := Outcome.bind_eq_ok.mp step
    rw [look, (policyOf_eq_ok look).1]
  obtain ⟨agree, found⟩ := Outcome.foldlM_agrees
    (fun port => (network.interface port).policies[layer.name]?) run fun port chosen next step => by
      obtain ⟨own, look, step⟩ := Outcome.bind_eq_ok.mp step
      rw [← (policyOf_eq_ok look).1]
      exact agree_policy_eq_ok step
  refine ⟨agree, ?_, ?_⟩
  · intro port listed free
    have addressed := (policyOf_eq_ok (looks port listed)).2.1
    by_contra unserved
    have has := addressed (by simpa using unserved)
    rw [free] at has
    cases has
  · intro name chosen
    obtain ⟨port, listed, own⟩ := found name chosen
    exact (policyOf_eq_ok (looks port listed)).2.2 name own

/-- One more subnet is accepted where there is none yet or where it is the same. -/
theorem agree_subnet_eq_ok {bound next : Option Subnet} {given : Subnet}
    {error : Subnet → CompileError}
    (step : (match bound with
      | some current =>
        if current = given then (pure (some given) : Except CompileError (Option Subnet))
        else throw (error current)
      | none => pure (some given)) = .ok next) :
    Outcome.Agrees (some given) bound next := by
  cases bound with
  | none =>
    cases step
    exact .inr ⟨given, rfl, rfl, .inl rfl⟩
  | some current =>
    dsimp only at step
    split at step
    case isTrue same =>
      cases step
      exact .inr ⟨given, rfl, rfl, .inr (congrArg some same)⟩
    case isFalse => cases step

/-- The subnet of the connections of a segment is the one of each connection that has
an explicit one. -/
theorem connectionSubnet_eq_ok {given : Option Subnet}
    (run : connectionSubnet network layer segment = .ok given) :
    (∀ connection ∈ segment.connections, ∀ text,
      network.givenSubnet? layer connection = some text →
        ∃ subnet, given = some subnet ∧ Subnet.parse text = .ok subnet) ∧
    (given.isSome = true →
      ∃ connection ∈ segment.connections,
        (network.givenSubnet? layer connection).isSome = true) := by
  let propose (connection : ConnectionId) : Option Subnet :=
    (network.givenSubnet? layer connection).bind fun text => (Subnet.parse text).toOption
  have proposes : ∀ connection text subnet, network.givenSubnet? layer connection = some text →
      readSubnet text = .ok subnet → propose connection = some subnet := by
    intro connection text subnet has read
    simp [propose, has, readSubnet_eq_ok read, Except.toOption]
  obtain ⟨agree, found⟩ := Outcome.foldlM_agrees propose run fun connection bound next step => by
    split at step
    case h_1 none =>
      cases step
      exact .inl ⟨congrArg (Option.bind · _) none, rfl⟩
    case h_2 text has =>
      obtain ⟨subnet, read, step⟩ := Outcome.bind_eq_ok.mp step
      rw [proposes connection text subnet has read]
      exact agree_subnet_eq_ok step
  constructor
  · intro connection listed text has
    obtain ⟨_, _, step⟩ := Outcome.exists_step_of_foldlM run connection listed
    rw [show (network.connection connection).parameters.get? (subnetKey layer.name) = some text
      from has] at step
    obtain ⟨subnet, read, _⟩ := Outcome.bind_eq_ok.mp step
    have proposed := proposes connection text subnet has read
    exact ⟨subnet, agree connection listed subnet proposed, readSubnet_eq_ok read⟩
  · intro bound
    obtain ⟨subnet, same⟩ := Option.isSome_iff_exists.mp bound
    obtain ⟨connection, listed, proposed⟩ := found subnet same
    obtain ⟨text, has, _⟩ := Option.bind_eq_some_iff.mp proposed
    exact ⟨connection, listed, Option.isSome_iff_exists.mpr ⟨text, has⟩⟩

/-- Interfaces wait for an address or have an explicit one. -/
theorem readExplicit_eq_ok {found : Explicit}
    (run : readExplicit network layer segment = .ok found) :
    found.waiting = segment.interfaces.filter (fun port =>
      (network.givenAddress? layer port).isNone) ∧
    found.reserved.map Prod.fst = segment.interfaces.filter (fun port =>
      (network.givenAddress? layer port).isSome) ∧
    ∀ entry ∈ found.reserved, ∃ text, network.givenAddress? layer entry.1 = some text ∧
      Address.parseHost? text = some entry.2 := by
  let motive (done : List InterfaceId) (current : Explicit) : Prop :=
    current.waiting = done.filter (fun port => (network.givenAddress? layer port).isNone) ∧
    current.reserved.map Prod.fst =
      done.filter (fun port => (network.givenAddress? layer port).isSome) ∧
    ∀ entry ∈ current.reserved, ∃ text, network.givenAddress? layer entry.1 = some text ∧
      Address.parseHost? text = some entry.2
  refine Outcome.foldlM_induction (motive := motive) run ⟨rfl, rfl, List.forall_mem_nil _⟩ ?_
  rintro done port current next _ ⟨waiting, reserved, addresses⟩ step
  split at step
  case h_1 none =>
    cases step
    have free : network.givenAddress? layer port = .none := none
    refine ⟨?_, ?_, addresses⟩
    · simp [waiting, free]
    · simp [reserved, free]
  case h_2 text has =>
    obtain ⟨address, read, step⟩ := Outcome.bind_eq_ok.mp step
    obtain ⟨length, _, step⟩ := Outcome.bind_eq_ok.mp step
    cases step
    have given : network.givenAddress? layer port = some text := has
    refine ⟨?_, ?_, fun entry listed => ?_⟩
    · simp [waiting, given]
    · simp [reserved, given]
    · rcases List.mem_append.mp listed with old | last
      · exact addresses entry old
      · rw [List.mem_singleton.mp last]
        exact ⟨text, given, readAddress_eq_ok read⟩

/-- The subnet implied by explicit addresses holds each of them. -/
theorem impliedSubnet_eq_ok {length : Nat} {reserved : List (InterfaceId × Address)}
    {implied : Option Subnet}
    (run : impliedSubnet network segment length reserved = .ok implied) :
    (∀ entry ∈ reserved, ∃ subnet, implied = some subnet ∧ subnet.contains entry.2 = true) ∧
      (reserved = [] → implied = none) := by
  let propose (entry : InterfaceId × Address) : Option Subnet :=
    (Subnet.ofAddress entry.2 length).toOption
  obtain ⟨agree, _⟩ := Outcome.foldlM_agrees propose run fun entry bound next step => by
    split at step
    case h_1 => cases step
    case h_2 given around =>
      have proposed : propose entry = some given := congrArg Except.toOption around
      rw [proposed]
      exact agree_subnet_eq_ok step
  constructor
  · intro entry listed
    obtain ⟨_, _, step⟩ := Outcome.exists_step_of_foldlM run entry listed
    split at step
    case h_1 => cases step
    case h_2 given around =>
      refine ⟨given, agree entry listed given (congrArg Except.toOption around), ?_⟩
      exact (Subnet.contains_of_ofAddress around).1
  · rintro rfl
    cases run
    rfl

/-- The subnet that explicit data give is the one of the connections, where there is
one, and holds all explicit addresses. -/
theorem explicitSubnet_eq_ok {policy : Option String} {explicit : Explicit}
    {given subnet : Option Subnet}
    (run : explicitSubnet network config segment policy explicit given = .ok subnet) :
    (∀ found, subnet = some found → ∀ entry ∈ explicit.reserved,
      found.contains entry.2 = true) ∧
    (∀ found, given = some found → subnet = some found) ∧
    (given = none → explicit.reserved = [] → subnet = none) ∧
    (given = none → explicit.reserved ≠ [] →
      (impliedLength config policy explicit.lengths).isSome = true → subnet.isSome = true) := by
  unfold explicitSubnet at run
  split at run
  case h_1 found =>
    obtain ⟨_, checked, same⟩ := Outcome.bind_eq_ok.mp run
    cases same
    refine ⟨fun other same entry listed => ?_, fun _ same => same, (fun none => nomatch none),
      fun none => nomatch none⟩
    cases same
    have accepted := Outcome.forM_eq_ok checked entry listed
    unfold checkInside at accepted
    split at accepted
    case isTrue inside => exact inside
    case isFalse => cases accepted
  case h_2 =>
    split at run
    case h_1 length _ =>
      obtain ⟨holds, none⟩ := impliedSubnet_eq_ok run
      refine ⟨fun found same entry listed => ?_, (fun _ some => nomatch some),
        fun _ => none, fun _ nonempty _ => ?_⟩
      · obtain ⟨implied, chosen, inside⟩ := holds entry listed
        cases same.symm.trans chosen
        exact inside
      · obtain ⟨entry, listed⟩ := List.exists_mem_of_ne_nil _ nonempty
        obtain ⟨implied, rfl, _⟩ := holds entry listed
        rfl
    case h_2 unknown =>
      cases run
      refine ⟨fun _ some => (nomatch some), fun _ some => (nomatch some), fun _ _ => rfl,
        fun _ _ known => ?_⟩
      rw [unknown] at known
      cases known

/-- A segment with an explicit address has a policy or a subnet. -/
theorem checkBounded_eq_ok {policy : Option String} {explicit : Explicit} {subnet : Option Subnet}
    (run : checkBounded network layer policy explicit subnet = .ok ())
    (addressed : explicit.reserved ≠ []) (unbound : subnet = none) : policy.isSome = true := by
  unfold checkBounded at run
  rw [unbound] at run
  cases policy with
  | some => rfl
  | none =>
    obtain ⟨first, rest, whole⟩ := List.exists_cons_of_ne_nil
      (show explicit.waiting ++ explicit.reserved.map (·.1) ≠ [] by simp [addressed])
    simp [whole] at run

/-- Explicit data determine a subnet, and nothing else does. -/
theorem isSome_subnet_iff {id : SegmentId} {policy : Option String} {explicit : Explicit}
    {given subnet : Option Subnet}
    (serves : ∀ name, policy = some name → ServesSegments layer config name)
    (connections : connectionSubnet network layer (network.segment id) = .ok given)
    (read : readExplicit network layer (network.segment id) = .ok explicit)
    (run : explicitSubnet network config (network.segment id) policy explicit given = .ok subnet)
    (bounded : checkBounded network layer policy explicit subnet = .ok ()) :
    subnet.isSome = true ↔ network.HasExplicit layer id := by
  obtain ⟨onConnection, fromConnection⟩ := connectionSubnet_eq_ok connections
  obtain ⟨_, reserved, _⟩ := readExplicit_eq_ok read
  obtain ⟨_, keeps, nothing, implies⟩ := explicitSubnet_eq_ok run
  have addressed : explicit.reserved ≠ [] ↔ ∃ port ∈ (network.segment id).interfaces,
      (network.givenAddress? layer port).isSome = true := by
    rw [ne_eq, ← List.map_eq_nil_iff (f := Prod.fst), reserved, List.filter_eq_nil_iff]
    simp [Option.isSome_iff_ne_none]
  constructor
  · intro bound
    cases same : given with
    | some found => exact .inl (fromConnection (by rw [same]; rfl))
    | none =>
      refine .inr (addressed.mp ?_)
      intro none
      rw [nothing same none] at bound
      cases bound
  · rintro (⟨connection, listed, has⟩ | explicitly)
    · obtain ⟨text, found⟩ := Option.isSome_iff_exists.mp has
      obtain ⟨found, same, _⟩ := onConnection connection listed text found
      rw [keeps found same]
      rfl
    · have nonempty := addressed.mpr explicitly
      cases same : given with
      | some found =>
        rw [keeps found same]
        rfl
      | none =>
        by_contra unbound
        have free : subnet = none := by simpa using unbound
        obtain ⟨name, chosen⟩ :=
          Option.isSome_iff_exists.mp (checkBounded_eq_ok bounded nonempty free)
        obtain ⟨found, definition, look, _⟩ := serves name chosen
        refine unbound (implies same nonempty ?_)
        simp [impliedLength, chosen, look]

/-- A plan that was made without failure describes its segment. -/
theorem describes_of_ofSegment {id : SegmentId} {plan : SegmentPlan}
    (run : ofSegment network config layer id = .ok plan) :
    Describes network layer config id plan := by
  obtain ⟨policy, choice, run⟩ := Outcome.bind_eq_ok.mp run
  obtain ⟨given, connections, run⟩ := Outcome.bind_eq_ok.mp run
  obtain ⟨explicit, read, run⟩ := Outcome.bind_eq_ok.mp run
  obtain ⟨subnet, determined, run⟩ := Outcome.bind_eq_ok.mp run
  obtain ⟨_, bounded, run⟩ := Outcome.bind_eq_ok.mp run
  cases run
  obtain ⟨agree, needed, serves⟩ := segmentPolicy_eq_ok choice
  obtain ⟨waiting, reserved, addresses⟩ := readExplicit_eq_ok read
  obtain ⟨holds, keeps, _⟩ := explicitSubnet_eq_ok determined
  refine ⟨rfl, agree, needed, serves, waiting, reserved, addresses, holds,
    fun connection listed text given => ?_,
    isSome_subnet_iff serves connections read determined bounded⟩
  obtain ⟨found, same, parsed⟩ := (connectionSubnet_eq_ok connections).1 connection listed text given
  exact ⟨found, keeps found same, parsed⟩

end SegmentPlan

end TopoPlan
