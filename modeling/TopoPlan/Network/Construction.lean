import TopoPlan.Config.Basic
import TopoPlan.Config.ParamName
import TopoPlan.Network.Basic
import TopoPlan.Topology

/-!
# Networks of topologies

The objects of a topology before anything is resolved: nodes, the two interfaces
and the connection of every edge, and groups.  Value labels become parameters.
-/

namespace TopoPlan.Network

/-- The parameters that value labels give. -/
def givenParameters (labels : Labels) : Parameters := { own := labels.values }

/-- The node of a topology node. -/
def nodeOf (given : GraphNode) : Node :=
  let labels := Labels.ofTexts given.labels
  { name := given.name, labels, parameters := givenParameters labels }

/-- The interface at one end of an edge. -/
def interfaceOf (node : NodeId) (name : Option String) (texts : List String) : Interface :=
  let labels := Labels.ofTexts texts
  { name := name.getD "", node, labels, parameters := givenParameters labels }

/-- Add an edge between two nodes: an interface at each and the connection. -/
def addEdge (network : Network) (edge : GraphEdge) (source target : NodeId) : Network :=
  let labels := Labels.ofTexts edge.labels
  let first := network.interfaces.size
  network
    |>.addInterface (interfaceOf source edge.sourceName edge.sourceLabels)
    |>.addInterface (interfaceOf target edge.targetName edge.targetLabels)
    |>.addConnection
      { source := first, target := first + 1, labels, parameters := givenParameters labels }

/-- The group of a topology group, given its nodes. -/
def groupOf (given : GraphGroup) (nodes : List NodeId) : Group :=
  let labels := Labels.ofTexts given.labels
  { name := given.name, labels, nodes, parameters := givenParameters labels }

/-- The position of the node with a key. -/
def nodeAt (topology : Topology) (context key : String) : Except CompileError NodeId :=
  match topology.position? key with
  | some id => .ok id
  | none => .error (.unknownNode key context)

/-- The network of a topology. -/
def ofTopology (config : Config) (topology : Topology) : Except CompileError Network := do
  match topology.fault? with
  | some fault => throw (.invalidTopology fault)
  | none =>
    let start : Network :=
      { nodes := (topology.nodes.map nodeOf).toArray
        classes := config.networkClasses.map (·.name)
        parameters := ({} : Parameters).set ParamName.objectName config.name }
    let linked <- topology.edges.foldlM (fun (network : Network) edge => do
      let source <- nodeAt topology "edge source" edge.source
      let target <- nodeAt topology "edge destination" edge.target
      pure (network.addEdge edge source target)) start
    topology.groups.foldlM (fun (network : Network) group => do
      let nodes <- group.nodes.mapM (nodeAt topology ("group " ++ group.name))
      pure (network.addGroup (groupOf group nodes))) linked

end TopoPlan.Network
