import TopoPlan.Config.Basic
import TopoPlan.Network.Description
import TopoPlan.Network.Stage

/-!
# Segments

A segment is a broadcast domain of one layer.  An interface knows a layer if it has
a policy or an explicit address in it; interfaces that do not know the layer bridge
all such interfaces of their node.  A segment holds the connections joined by
bridges, and the interfaces at their ends that know the layer.
-/

namespace TopoPlan.Segments

/-- Whether an interface knows a layer. -/
def knowsLayer (network : Network) (layer : Layer) (id : InterfaceId) : Bool :=
  let interface := network.interface id
  interface.policies.contains layer.name || interface.parameters.has (addressKey layer.name)

/-- Whether a connection takes part in a layer. -/
def takesPart (network : Network) (layer : Layer) (id : ConnectionId) : Bool :=
  (network.connection id).layers.contains layer.name

/-- A search for segments: the connections reached so far by any segment, those of
the present one, its interfaces, and the interfaces still to look at. -/
structure Search where
  reached : List ConnectionId
  connections : List ConnectionId
  interfaces : List InterfaceId := []
  pending : List InterfaceId
  deriving DecidableEq, Inhabited

/-- Cross a port that does not know the layer: its connection joins the segment, and
the other end is to be looked at. -/
def crossPort (network : Network) (layer : Layer) (search : Search) (port : InterfaceId) :
    Search :=
  match (network.interface port).connection with
  | none => search
  | some found =>
    if !takesPart network layer found || search.reached.contains found then search
    else
      { search with
        reached := found :: search.reached
        connections := search.connections ++ [found]
        pending := (network.opposite? port).toList ++ search.pending }

/-- The ports that bridge with an interface: those of its node that do not know the
layer either. -/
def bridgedPorts (network : Network) (layer : Layer) (id : InterfaceId) : List InterfaceId :=
  (network.node (network.interface id).node).interfaces.filter fun port =>
    port != id && !knowsLayer network layer port

/-- Look at an interface: one that knows the layer belongs to the segment, any other
bridges. -/
def lookAt (network : Network) (layer : Layer) (search : Search) (id : InterfaceId) : Search :=
  if knowsLayer network layer id then
    if search.interfaces.contains id then search
    else { search with interfaces := search.interfaces ++ [id] }
  else (bridgedPorts network layer id).foldl (crossPort network layer) search

/-- Look at pending interfaces, the last found first.  Every interface was pending
from the start or came with a connection newly reached, so two steps more than there
are connections suffice. -/
def explore (network : Network) (layer : Layer) : (steps : Nat) -> Search -> Search
  | 0, search => search
  | steps + 1, search =>
    match search.pending with
    | [] => search
    | id :: pending => explore network layer steps (lookAt network layer { search with pending } id)

/-- The segment of a connection that no segment has reached. -/
def searchFrom (network : Network) (layer : Layer) (reached : List ConnectionId)
    (id : ConnectionId) : Search :=
  let connection := network.connection id
  explore network layer (network.connections.size + 2)
    { reached := id :: reached
      connections := [id]
      pending := [connection.source, connection.target] }

/-- The name of a segment by its layer and its number. -/
def segmentName (layer : String) (number : Nat) : String :=
  layer ++ "_seg" ++ Numeral.text number

/-- Continue the segments found so far with the one of a connection, unless that is
part of one of them or takes no part in the layer. -/
def step (network : Network) (layer : Layer) (state : List ConnectionId × List Segment)
    (id : ConnectionId) : List ConnectionId × List Segment :=
  let (reached, segments) := state
  if !takesPart network layer id || reached.contains id then state
  else
    let search := searchFrom network layer reached id
    let segment : Segment :=
      { name := segmentName layer.name segments.length
        layer := layer.name
        interfaces := search.interfaces
        connections := search.connections }
    (search.reached, segments ++ [segment])

/-- The segments of a layer, in the order of their first connections. -/
def ofLayer (network : Network) (layer : Layer) : List Segment :=
  (network.connectionIds.foldl (step network layer) ([], [])).2

/-- The neighbors that the interfaces of a segment ask for. -/
def neighborsIn (network : Network) (layer : String) (interfaces : List InterfaceId) :
    List Neighbor :=
  (interfaces.filter fun id => (network.interface id).neighborLayers.contains layer).flatMap
    fun self => (interfaces.filter (· != self)).map fun peer => { self, peer, layer }

/-- The classes that labels of its connections and interfaces address to a segment,
with what to call the labelled object. -/
def requestedClasses (network : Network) (segment : Segment) : List (String × String) :=
  (segment.connections.flatMap fun id =>
      let connection := network.connection id
      (connection.labels.relationalFor ClassKind.segment.name).map fun name =>
        (name, connection.name)) ++
    segment.interfaces.flatMap fun id =>
      ((network.interface id).labels.relationalFor ClassKind.segment.name).map fun name =>
        (name, network.describe (.interface id))

/-- Let a segment class act on a segment of its layer that has not got it. -/
def applyClass (network : Network) (id : SegmentId) (definition : SegmentClass) : Network :=
  let segment := network.segment id
  if definition.layer != segment.layer || segment.classes.contains definition.name then network
  else
    (network.updateSegment id fun found =>
      { found with
        classes := found.classes ++ [definition.name]
        parameters := definition.params.foldl Parameters.flag found.parameters }).enter
      .segment definition.name (.segment id)

/-- Let the classes addressed to a segment act on it. -/
def applyClasses (config : Config) (id : SegmentId) : Stage Unit := do
  let network <- get
  (requestedClasses network (network.segment id)).forM fun request => do
    let definition <- Stage.require (config.segmentClass? request.1)
      (.unknownClass ClassKind.segment.name request.1 request.2)
    modify fun current => applyClass current id definition

/-- Add a segment with its neighbors and classes. -/
def addSegment (config : Config) (segment : Segment) : Stage Unit := do
  let id := (<- get).segments.size
  modify fun network => network.addSegment segment
  modify fun network =>
    (neighborsIn network segment.layer segment.interfaces).foldl Network.addNeighbor network
  applyClasses config id

/-- Add the segments of a layer. -/
def addLayer (config : Config) (layer : Layer) : Stage Unit := do
  (ofLayer (<- get) layer).forM (addSegment config)

/-- Add the segments of all layers. -/
def addAll (config : Config) : Stage Unit :=
  config.layers.forM (addLayer config)

end TopoPlan.Segments
