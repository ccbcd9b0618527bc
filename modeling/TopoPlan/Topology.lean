import TopoPlan.Data.Record
import TopoPlan.Error

/-!
# Topologies

A topology is a labelled multigraph: nodes, edges whose two ends carry labels of
their own, and groups of nodes.  Edges and groups refer to nodes by key.
-/

namespace TopoPlan

/-- A node as the topology gives it. -/
structure GraphNode where
  id : Option String := none
  /-- Empty for a node that is to be named. -/
  name : String := ""
  labels : List String := []
  deriving DecidableEq, Inhabited

/-- The key by which edges and groups refer to a node. -/
def GraphNode.key (node : GraphNode) : String := node.id.getD node.name

/-- A link between two nodes. -/
structure GraphEdge where
  source : String
  target : String
  labels : List String := []
  sourceLabels : List String := []
  targetLabels : List String := []
  sourceName : Option String := none
  targetName : Option String := none
  deriving DecidableEq, Inhabited

/-- A named set of nodes. -/
structure GraphGroup where
  name : String
  labels : List String := []
  nodes : List String := []
  deriving DecidableEq, Inhabited

/-- A labelled multigraph. -/
structure Topology where
  nodes : List GraphNode := []
  edges : List GraphEdge := []
  groups : List GraphGroup := []
  deriving DecidableEq, Inhabited

namespace Topology

/-- Where the node with a key stands. -/
def position? (topology : Topology) (key : String) : Option Nat :=
  topology.nodes.findIdx? fun node => node.key == key

/-- The first node without a key or with the key of an earlier node. -/
def nodeFault? : Nat -> List String -> List GraphNode -> Option TopologyFault
  | _, _, [] => none
  | position, taken, node :: rest =>
    if node.key.isEmpty then some (.unnamedNode position)
    else if taken.contains node.key then some (.duplicateNode node.key)
    else nodeFault? (position + 1) (node.key :: taken) rest

/-- The first end of an edge that is no node. -/
def edgeFault? (keys : List String) (edges : List GraphEdge) : Option TopologyFault :=
  edges.zipIdx.findSome? fun entry =>
    ([entry.1.source, entry.1.target].find? fun key => !keys.contains key).map
      (.unknownEnd entry.2)

/-- The first entry of a group that is no node. -/
def groupFault? (keys : List String) (groups : List GraphGroup) : Option TopologyFault :=
  groups.findSome? fun group =>
    (group.nodes.find? fun key => !keys.contains key).map (.unknownGroupNode group.name)

/-- The first violation: every node has a key of its own, and every reference is to
a node. -/
def fault? (topology : Topology) : Option TopologyFault :=
  let keys := topology.nodes.map GraphNode.key
  nodeFault? 0 [] topology.nodes <|> edgeFault? keys topology.edges <|>
    groupFault? keys topology.groups

end Topology

/-- A node of a document. -/
def GraphNode.read? : Doc -> Option GraphNode := Record.read? do
  let id <- Record.optional "id" Doc.text?
  let name <- Record.defaulted "name" "" Doc.text?
  let labels <- Record.defaulted "labels" [] Doc.texts?
  pure { id, name, labels }

/-- An edge of a document. -/
def GraphEdge.read? : Doc -> Option GraphEdge := Record.read? do
  let source <- Record.required "src" Doc.text?
  let target <- Record.required "dst" Doc.text?
  let labels <- Record.defaulted "labels" [] Doc.texts?
  let sourceLabels <- Record.defaulted "src_labels" [] Doc.texts?
  let targetLabels <- Record.defaulted "dst_labels" [] Doc.texts?
  let sourceName <- Record.optional "src_name" Doc.text?
  let targetName <- Record.optional "dst_name" Doc.text?
  pure { source, target, labels, sourceLabels, targetLabels, sourceName, targetName }

/-- A group of a document. -/
def GraphGroup.read? : Doc -> Option GraphGroup := Record.read? do
  let name <- Record.required "name" Doc.text?
  let labels <- Record.defaulted "labels" [] Doc.texts?
  let nodes <- Record.defaulted "nodes" [] Doc.texts?
  pure { name, labels, nodes }

/-- A topology of a document. -/
def Topology.read? : Doc -> Option Topology := Record.read? do
  let nodes <- Record.defaulted "nodes" [] (Doc.list? GraphNode.read?)
  let edges <- Record.defaulted "edges" [] (Doc.list? GraphEdge.read?)
  let groups <- Record.defaulted "groups" [] (Doc.list? GraphGroup.read?)
  pure { nodes, edges, groups }

/-- An optional name, written when there is one. -/
def nameEntry (field : String) (name : Option String) : List (String × Value) :=
  match name with
  | some content => [(field, .text content)]
  | none => []

/-- A node as a value. -/
def GraphNode.toValue (node : GraphNode) : Value := .fields (
  nameEntry "id" node.id ++
    [("name", .text node.name), ("labels", .texts node.labels)])

/-- An edge as a value. -/
def GraphEdge.toValue (edge : GraphEdge) : Value := .fields (
  [("src", .text edge.source),
    ("dst", .text edge.target),
    ("labels", .texts edge.labels),
    ("src_labels", .texts edge.sourceLabels),
    ("dst_labels", .texts edge.targetLabels)] ++
    nameEntry "src_name" edge.sourceName ++ nameEntry "dst_name" edge.targetName)

/-- A group as a value. -/
def GraphGroup.toValue (group : GraphGroup) : Value := .fields [
  ("name", .text group.name), ("labels", .texts group.labels), ("nodes", .texts group.nodes)]

/-- A topology as a value. -/
def Topology.toValue (topology : Topology) : Value := .fields [
  ("nodes", .list (topology.nodes.map GraphNode.toValue)),
  ("edges", .list (topology.edges.map GraphEdge.toValue)),
  ("groups", .list (topology.groups.map GraphGroup.toValue))]

end TopoPlan
