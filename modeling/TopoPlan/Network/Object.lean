import TopoPlan.Address.Subnet
import TopoPlan.Config.Class
import TopoPlan.Label
import TopoPlan.Network.Parameters
import TopoPlan.Network.Scope

/-!
# Objects of a network

The objects that a compilation works on.  Objects refer to each other by position,
and references that lead back are kept on both sides.
-/

namespace TopoPlan

/-- The naming stem of nodes. -/
def nodeStem : String := "node"

/-- The naming stem of interfaces. -/
def interfaceStem : String := "net"

/-- A node. -/
structure Node where
  name : String := ""
  labels : Labels := {}
  classes : List String := []
  interfaces : List InterfaceId := []
  groups : List GroupId := []
  isVirtual : Bool := false
  stem : String := ""
  primaryClass : Option String := none
  managementClass : Option String := none
  managementInterface : Option InterfaceId := none
  tinet : Table Value := {}
  clab : Table Value := {}
  /-- Names of policies by layer. -/
  policies : Table String := {}
  /-- Declarations of members, with the classes that made them. -/
  memberClasses : List (String × MemberClass) := []
  members : List MemberId := []
  attachments : List AttachmentId := []
  parameters : Parameters := {}
  deriving Inhabited

/-- An interface of a node. -/
structure Interface where
  /-- Empty until the interface is named. -/
  name : String := ""
  node : NodeId
  connection : Option ConnectionId := none
  labels : Labels := {}
  classes : List String := []
  isVirtual : Bool := false
  stem : String := ""
  primaryClass : Option String := none
  tinet : Table Value := {}
  clab : Table Value := {}
  /-- Names of policies by layer. -/
  policies : Table String := {}
  /-- Layers in which the interface has neighbors. -/
  neighborLayers : NameSet := {}
  /-- Neighbors by layer. -/
  neighbors : Table (List NeighborId) := {}
  memberClasses : List (String × MemberClass) := []
  members : List MemberId := []
  attachments : List AttachmentId := []
  /-- The interface was made for management. -/
  isManagement : Bool := false
  parameters : Parameters := {}
  deriving Inhabited

/-- A connection of two interfaces. -/
structure Connection where
  name : String := ""
  source : InterfaceId
  target : InterfaceId
  labels : Labels := {}
  classes : List String := []
  /-- Layers in which the connection takes part. -/
  layers : NameSet := {}
  isVirtual : Bool := false
  primaryClass : Option String := none
  /-- Naming stem of both ends. -/
  stem : Option String := none
  memberClasses : List (String × MemberClass) := []
  members : List MemberId := []
  attachments : List AttachmentId := []
  parameters : Parameters := {}
  deriving Inhabited

/-- The end of a connection that is not the given one. -/
def Connection.otherEnd? (connection : Connection) (interface : InterfaceId) :
    Option InterfaceId :=
  if connection.source = interface then some connection.target
  else if connection.target = interface then some connection.source
  else none

/-- A group of nodes. -/
structure Group where
  name : String := ""
  labels : Labels := {}
  classes : List String := []
  nodes : List NodeId := []
  isVirtual : Bool := false
  attachments : List AttachmentId := []
  parameters : Parameters := {}
  deriving Inhabited

/-- A broadcast domain of one layer. -/
structure Segment where
  name : String := ""
  layer : String := ""
  /-- The interfaces that know the layer, in the order in which they were found. -/
  interfaces : List InterfaceId := []
  connections : List ConnectionId := []
  /-- The subnet of the segment. -/
  subnet : Option Subnet := none
  classes : List String := []
  attachments : List AttachmentId := []
  parameters : Parameters := {}
  deriving Inhabited

/-- An interface as seen from another one of the same segment. -/
structure Neighbor where
  self : InterfaceId
  peer : InterfaceId
  layer : String
  parameters : Parameters := {}
  deriving Inhabited

/-- An object as seen from one that declares its class as members. -/
structure Member where
  kind : ClassKind
  className : String
  referrer : Scope
  member : Scope
  parameters : Parameters := {}
  deriving Inhabited

/-- A record that an attach rule gives to an object. -/
structure Attachment where
  rule : String
  owner : Scope
  index : Nat
  parameters : Parameters := {}
  deriving Inhabited

end TopoPlan
