import TopoPlan.Network.Object

/-!
# Networks

A network holds all objects of one compilation.  Adding an object also enters it at
the objects that it belongs to, so references lead both ways.
-/

namespace TopoPlan

/-- All objects of one compilation. -/
structure Network where
  nodes : Array Node := #[]
  interfaces : Array Interface := #[]
  connections : Array Connection := #[]
  groups : Array Group := #[]
  segments : Array Segment := #[]
  neighbors : Array Neighbor := #[]
  members : Array Member := #[]
  attachments : Array Attachment := #[]
  /-- Classes of the network itself. -/
  classes : List String := []
  /-- Parameters of the network itself. -/
  parameters : Parameters := {}
  /-- Objects entered under classes, in the order in which they were entered. -/
  classIndex : List (ClassKind × String × Scope) := []
  deriving Inhabited

namespace Network

/-- The node at a position. -/
def node (network : Network) (id : NodeId) : Node := network.nodes.getD id default

/-- The interface at a position. -/
def interface (network : Network) (id : InterfaceId) : Interface :=
  network.interfaces.getD id default

/-- The connection at a position. -/
def connection (network : Network) (id : ConnectionId) : Connection :=
  network.connections.getD id default

/-- The group at a position. -/
def group (network : Network) (id : GroupId) : Group := network.groups.getD id default

/-- The segment at a position. -/
def segment (network : Network) (id : SegmentId) : Segment := network.segments.getD id default

/-- The neighbor at a position. -/
def neighbor (network : Network) (id : NeighborId) : Neighbor :=
  network.neighbors.getD id default

/-- The member at a position. -/
def member (network : Network) (id : MemberId) : Member := network.members.getD id default

/-- The positions of nodes. -/
def nodeIds (network : Network) : List NodeId := List.range network.nodes.size

/-- The positions of interfaces. -/
def interfaceIds (network : Network) : List InterfaceId := List.range network.interfaces.size

/-- The positions of connections. -/
def connectionIds (network : Network) : List ConnectionId :=
  List.range network.connections.size

/-- The positions of groups. -/
def groupIds (network : Network) : List GroupId := List.range network.groups.size

/-- The positions of segments. -/
def segmentIds (network : Network) : List SegmentId := List.range network.segments.size

/-- The positions of members. -/
def memberIds (network : Network) : List MemberId := List.range network.members.size

/-- Change the node at a position. -/
def updateNode (network : Network) (id : NodeId) (change : Node -> Node) : Network :=
  { network with nodes := network.nodes.modify id change }

/-- Change the interface at a position. -/
def updateInterface (network : Network) (id : InterfaceId) (change : Interface -> Interface) :
    Network :=
  { network with interfaces := network.interfaces.modify id change }

/-- Change the connection at a position. -/
def updateConnection (network : Network) (id : ConnectionId)
    (change : Connection -> Connection) : Network :=
  { network with connections := network.connections.modify id change }

/-- Change the group at a position. -/
def updateGroup (network : Network) (id : GroupId) (change : Group -> Group) : Network :=
  { network with groups := network.groups.modify id change }

/-- Change the segment at a position. -/
def updateSegment (network : Network) (id : SegmentId) (change : Segment -> Segment) : Network :=
  { network with segments := network.segments.modify id change }

/-- The parameters of an object. -/
def parametersOf (network : Network) : Scope -> Parameters
  | .network => network.parameters
  | .node id => (network.node id).parameters
  | .interface id => (network.interface id).parameters
  | .connection id => (network.connection id).parameters
  | .group id => (network.group id).parameters
  | .segment id => (network.segment id).parameters
  | .neighbor id => (network.neighbor id).parameters
  | .member id => (network.member id).parameters

/-- Change the parameters of an object. -/
def updateParameters (network : Network) (scope : Scope) (change : Parameters -> Parameters) :
    Network :=
  match scope with
  | .network => { network with parameters := change network.parameters }
  | .node id =>
    network.updateNode id fun node => { node with parameters := change node.parameters }
  | .interface id =>
    network.updateInterface id fun interface =>
      { interface with parameters := change interface.parameters }
  | .connection id =>
    network.updateConnection id fun connection =>
      { connection with parameters := change connection.parameters }
  | .group id =>
    network.updateGroup id fun group => { group with parameters := change group.parameters }
  | .segment id =>
    network.updateSegment id fun segment =>
      { segment with parameters := change segment.parameters }
  | .neighbor id =>
    { network with
      neighbors := network.neighbors.modify id fun neighbor =>
        { neighbor with parameters := change neighbor.parameters } }
  | .member id =>
    { network with
      members := network.members.modify id fun member =>
        { member with parameters := change member.parameters } }

/-- Add an interface and enter it at its node. -/
def addInterface (network : Network) (interface : Interface) : Network :=
  let id := network.interfaces.size
  { network with interfaces := network.interfaces.push interface }.updateNode interface.node
    fun node => { node with interfaces := node.interfaces ++ [id] }

/-- Add a connection and enter it at both ends. -/
def addConnection (network : Network) (connection : Connection) : Network :=
  let id := network.connections.size
  let attach := fun (interface : Interface) => { interface with connection := some id }
  { network with connections := network.connections.push connection }
    |>.updateInterface connection.source attach
    |>.updateInterface connection.target attach

/-- Add a group and enter it at its nodes. -/
def addGroup (network : Network) (group : Group) : Network :=
  let id := network.groups.size
  group.nodes.foldl
    (fun current member => current.updateNode member fun node =>
      { node with groups := node.groups ++ [id] })
    { network with groups := network.groups.push group }

/-- Add a segment. -/
def addSegment (network : Network) (segment : Segment) : Network :=
  { network with segments := network.segments.push segment }

/-- Add a neighbor and enter it at the interface that has it. -/
def addNeighbor (network : Network) (neighbor : Neighbor) : Network :=
  let id := network.neighbors.size
  { network with neighbors := network.neighbors.push neighbor }.updateInterface neighbor.self
    fun interface =>
      { interface with neighbors := Table.push interface.neighbors neighbor.layer id }

/-- Add a member and enter it at the object that declares it. -/
def addMember (network : Network) (member : Member) : Network :=
  let id := network.members.size
  let network := { network with members := network.members.push member }
  match member.referrer with
  | .node referrer =>
    network.updateNode referrer fun node => { node with members := node.members ++ [id] }
  | .interface referrer =>
    network.updateInterface referrer fun interface =>
      { interface with members := interface.members ++ [id] }
  | .connection referrer =>
    network.updateConnection referrer fun connection =>
      { connection with members := connection.members ++ [id] }
  | _ => network

/-- Add an attachment and enter it at its owner. -/
def addAttachment (network : Network) (attachment : Attachment) : Network :=
  let id := network.attachments.size
  let network := { network with attachments := network.attachments.push attachment }
  match attachment.owner with
  | .node owner =>
    network.updateNode owner fun node => { node with attachments := node.attachments ++ [id] }
  | .interface owner =>
    network.updateInterface owner fun interface =>
      { interface with attachments := interface.attachments ++ [id] }
  | .connection owner =>
    network.updateConnection owner fun connection =>
      { connection with attachments := connection.attachments ++ [id] }
  | .group owner =>
    network.updateGroup owner fun group => { group with attachments := group.attachments ++ [id] }
  | .segment owner =>
    network.updateSegment owner fun segment =>
      { segment with attachments := segment.attachments ++ [id] }
  | _ => network

/-- The other end of the connection of an interface. -/
def opposite? (network : Network) (interface : InterfaceId) : Option InterfaceId := do
  let connection <- (network.interface interface).connection
  (network.connection connection).otherEnd? interface

/-- The first node of a name. -/
def findNode? (network : Network) (name : String) : Option NodeId :=
  network.nodeIds.find? fun id => (network.node id).name == name

/-- The first interface of a name at a node. -/
def findInterface? (network : Network) (node : NodeId) (name : String) : Option InterfaceId :=
  (network.node node).interfaces.find? fun id => (network.interface id).name == name

/-- The segments of a layer. -/
def segmentsIn (network : Network) (layer : String) : List SegmentId :=
  network.segmentIds.filter fun id => (network.segment id).layer == layer

/-- Enter an object under a class, once. -/
def enter (network : Network) (kind : ClassKind) (className : String) (scope : Scope) : Network :=
  if network.classIndex.contains (kind, className, scope) then network
  else { network with classIndex := network.classIndex ++ [(kind, className, scope)] }

/-- The objects entered under a class. -/
def entered (network : Network) (kind : ClassKind) (className : String) : List Scope :=
  (network.classIndex.filter fun entry => entry.1 = kind && entry.2.1 == className).map (·.2.2)

/-- An interface followed by its neighbors. -/
def interfaceScopes (network : Network) (id : InterfaceId) : List Scope :=
  .interface id :: ((network.interface id).neighbors.values.flatten.map Scope.neighbor)

/-- A node followed by its interfaces and their neighbors. -/
def nodeScopes (network : Network) (id : NodeId) : List Scope :=
  .node id :: (network.node id).interfaces.flatMap network.interfaceScopes

/-- All objects: the network, the nodes with what they have, connections, segments,
members and groups. -/
def scopes (network : Network) : List Scope :=
  .network :: network.nodeIds.flatMap network.nodeScopes ++
    network.connectionIds.map Scope.connection ++ network.segmentIds.map Scope.segment ++
    network.memberIds.map Scope.member ++ network.groupIds.map Scope.group

end Network

end TopoPlan
