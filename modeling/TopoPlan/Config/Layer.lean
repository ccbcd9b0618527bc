import TopoPlan.Address.Subnet

/-!
# Layers and their policies

A layer is a kind of connectivity.  Its policies say from which range of addresses
segments, or the loopbacks of nodes, are served.  The parameters that hold
addresses are named after the layer.
-/

namespace TopoPlan

/-- What a policy serves. -/
inductive PolicyKind where
  /-- Interfaces: one subnet for every segment. -/
  | ip
  /-- Nodes: one address for every node. -/
  | loopback
  deriving DecidableEq, Inhabited

/-- A range of addresses and how it is divided. -/
structure Policy where
  name : String
  kind : PolicyKind := .ip
  range : String
  /-- The length of the subnets of segments. -/
  subnetLength : Nat := 0
  deriving DecidableEq, Inhabited

/-- A kind of connectivity. -/
structure Layer where
  name : String
  /-- Every connection takes part. -/
  connectsByDefault : Bool := false
  policies : List Policy := []
  deriving DecidableEq, Inhabited

/-- The parameter that holds an address in a layer. -/
def addressKey (layer : String) : String := layer ++ "_addr"

/-- The parameter that holds a subnet in a layer. -/
def subnetKey (layer : String) : String := layer ++ "_net"

/-- The parameter that holds the length of a subnet in a layer. -/
def lengthKey (layer : String) : String := layer ++ "_plen"

/-- The parameter that holds the loopback address of a node in a layer. -/
def loopbackKey (layer : String) : String := layer ++ "_loopback"

namespace Layer

/-- The policies that serve segments. -/
def segmentPolicies (layer : Layer) : List Policy :=
  layer.policies.filter fun policy => policy.kind = .ip

/-- The policies that serve loopbacks. -/
def loopbackPolicies (layer : Layer) : List Policy :=
  layer.policies.filter fun policy => policy.kind = .loopback

end Layer

/-- The network of management interfaces. -/
structure ManagementLayer where
  name : String
  range : String
  gateway : Option String := none
  interfaceName : Option String := none
  deriving DecidableEq, Inhabited

namespace ManagementLayer

/-- The name that management interfaces get unless another one is configured. -/
def defaultInterfaceName : String := "mgmt"

/-- The name of management interfaces. -/
def interface (layer : ManagementLayer) : String :=
  layer.interfaceName.getD defaultInterfaceName

end ManagementLayer

end TopoPlan
