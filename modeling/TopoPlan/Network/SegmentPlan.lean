import TopoPlan.Address.Hosts
import TopoPlan.Config.Basic
import TopoPlan.Network.Description

/-!
# Plans of segments

What is known of the addresses of a segment before anything is handed out: its
policy, the subnet that explicit data give it, the interfaces with an explicit
address and those that wait for one.  Explicit data must agree with each other.
-/

namespace TopoPlan

/-- What is known of the addresses of a segment. -/
structure SegmentPlan where
  segment : SegmentId
  policy : Option String := none
  subnet : Option Subnet := none
  /-- Interfaces without an explicit address. -/
  waiting : List InterfaceId := []
  /-- Interfaces with their explicit addresses. -/
  reserved : List (InterfaceId × Address) := []
  deriving DecidableEq, Inhabited

/-- Read a subnet that a parameter or a policy gives. -/
def readSubnet (text : String) : Except CompileError Subnet :=
  match Subnet.parse text with
  | .ok subnet => .ok subnet
  | .error fault => .error (.invalidAddress text (.subnet fault))

/-- Read an address that a parameter gives. -/
def readAddress (text : String) : Except CompileError Address :=
  match Address.parseHost? text with
  | some address => .ok address
  | none => .error (.invalidAddress text (.host text))

namespace SegmentPlan

/-- The policy of an interface in a layer, which must be one for segments of the
layer.  An interface without a policy needs an explicit address. -/
def policyOf (network : Network) (config : Config) (layer : Layer) (id : InterfaceId) :
    Except CompileError (Option String) :=
  let interface := network.interface id
  match interface.policies[layer.name]? with
  | none =>
    if interface.parameters.has (addressKey layer.name) then .ok none
    else .error (.missingPolicy (network.describe (.interface id)) layer.name)
  | some policy =>
    let undefined := CompileError.undefinedPolicy policy (network.describe (.interface id))
    match config.policy? policy with
    | none => .error undefined
    | some (found, definition) =>
      if found.name == layer.name && definition.kind = .ip then .ok (some policy)
      else .error undefined

/-- The one policy of the interfaces of a segment. -/
def segmentPolicy (network : Network) (config : Config) (layer : Layer) (segment : Segment) :
    Except CompileError (Option String) :=
  segment.interfaces.foldlM
    (fun chosen id => do
      match <- policyOf network config layer id, chosen with
      | some policy, some current =>
        if current == policy then pure chosen
        else throw (.inconsistentPolicy current policy segment.name)
      | some policy, none => pure (some policy)
      | none, _ => pure chosen)
    none

/-- The subnet that the connections of a segment give it. -/
def connectionSubnet (network : Network) (layer : Layer) (segment : Segment) :
    Except CompileError (Option Subnet) :=
  segment.connections.foldlM
    (fun bound id => do
      match (network.connection id).parameters.get? (subnetKey layer.name) with
      | none => pure bound
      | some text =>
        let given <- readSubnet text
        match bound with
        | some current =>
          if current = given then pure (some given)
          else throw (.inconsistentAddress (.subnets current given) segment.name)
        | none => pure (some given))
    none

/-- The length written after an explicit address, if there is one. -/
def givenLength (text : String) : Except CompileError (Option Nat) :=
  match Text.cutOnce '/' text with
  | none => .ok none
  | some (_, length) =>
    match Numeral.read 10 256 (Text.trimList length.toList) with
    | .ok length => .ok (some length)
    | .error fault => .error (.invalidAddress text (.length fault))

/-- The explicit addresses of a segment and the lengths written with them. -/
structure Explicit where
  waiting : List InterfaceId := []
  reserved : List (InterfaceId × Address) := []
  lengths : List Nat := []
  deriving DecidableEq, Inhabited

/-- Read the explicit addresses of a segment. -/
def readExplicit (network : Network) (layer : Layer) (segment : Segment) :
    Except CompileError Explicit :=
  segment.interfaces.foldlM
    (fun (found : Explicit) id => do
      match (network.interface id).parameters.get? (addressKey layer.name) with
      | none => pure { found with waiting := found.waiting ++ [id] }
      | some text =>
        let address <- readAddress text
        let length <- givenLength text
        pure { found with
          reserved := found.reserved ++ [(id, address)]
          lengths := found.lengths ++ length.toList })
    {}

/-- An explicit address lies in the subnet of its segment. -/
def checkInside (network : Network) (segment : Segment) (subnet : Subnet)
    (entry : InterfaceId × Address) : Except CompileError Unit :=
  if subnet.contains entry.2 then .ok ()
  else
    .error (.inconsistentAddress
      (.outside entry.2 (network.describe (.interface entry.1)) subnet) segment.name)

/-- The subnet of a given length around all explicit addresses. -/
def impliedSubnet (network : Network) (segment : Segment) (length : Nat)
    (reserved : List (InterfaceId × Address)) : Except CompileError (Option Subnet) :=
  reserved.foldlM
    (fun bound entry => do
      match Subnet.ofAddress entry.2 length with
      | .error fault => throw (.invalidAddress entry.2.text (.subnet fault))
      | .ok implied =>
        match bound with
        | some current =>
          if current = implied then pure (some implied)
          else
            throw (.inconsistentAddress
              (.outside entry.2 (network.describe (.interface entry.1)) current) segment.name)
        | none => pure (some implied))
    none

/-- The length of the subnet that explicit addresses imply: the one of the policy,
or the first one written with an address. -/
def impliedLength (config : Config) (policy : Option String) (lengths : List Nat) : Option Nat :=
  match policy with
  | some name => (config.policy? name).map fun found => found.2.subnetLength
  | none => lengths.head?

/-- The subnet that explicit data give a segment. -/
def explicitSubnet (network : Network) (config : Config) (segment : Segment)
    (policy : Option String) (explicit : Explicit) (given : Option Subnet) :
    Except CompileError (Option Subnet) :=
  match given with
  | some subnet => do
    explicit.reserved.forM (checkInside network segment subnet)
    pure (some subnet)
  | none =>
    match impliedLength config policy explicit.lengths with
    | some length => impliedSubnet network segment length explicit.reserved
    | none => .ok none

/-- A segment has a policy or a subnet, unless it has no interface. -/
def checkBounded (network : Network) (layer : Layer) (policy : Option String)
    (explicit : Explicit) (subnet : Option Subnet) : Except CompileError Unit :=
  if policy.isNone && subnet.isNone then
    match explicit.waiting ++ explicit.reserved.map (·.1) with
    | [] => .ok ()
    | first :: _ => .error (.missingPolicy (network.describe (.interface first)) layer.name)
  else .ok ()

/-- The plan of a segment. -/
def ofSegment (network : Network) (config : Config) (layer : Layer) (id : SegmentId) :
    Except CompileError SegmentPlan := do
  let segment := network.segment id
  let policy <- segmentPolicy network config layer segment
  let given <- connectionSubnet network layer segment
  let explicit <- readExplicit network layer segment
  let subnet <- explicitSubnet network config segment policy explicit given
  checkBounded network layer policy explicit subnet
  pure { segment := id, policy, subnet, waiting := explicit.waiting, reserved := explicit.reserved }

end SegmentPlan

end TopoPlan
