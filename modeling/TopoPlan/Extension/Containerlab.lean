import TopoPlan.Network.ClassEffects
import TopoPlan.Rule.Generator

/-!
# Containerlab

Networks for containerlab: every node gets a class with the templates of its
topology file, the network gets the links of its real nodes, and a real node gets
the mounts of the configured files.  Such a network needs a startup template, and an
image and a kind for every real node.
-/

namespace TopoPlan.Containerlab

/-- The name of the extension. -/
def name : String := "containerlab"

/-- The class that every node gets. -/
def nodeClassName : String := "_clabNode"

/-- The parameter that holds the name of the network. -/
def networkNameKey : String := "_clab_networkName"

/-- The parameter that holds the links. -/
def linksKey : String := "_clab_link_endpoints"

/-- The parameter that holds the mounts of a node. -/
def mountsKey : String := "_clab_bindMounts"

/-- The template that some node class must list. -/
def startupTemplate : String := "startup"

/-- The parameters that every real node must have. -/
def neededKeys : List String := ["image", "kind"]

/-- The class that every node gets: the commands follow the startup template, and the
topology file follows the commands. -/
def nodeClass : NodeClass :=
  { name := nodeClassName
    templates :=
      [{ name := "clab_cmds", depends := [startupTemplate] },
        { name := "clab_topo", depends := ["clab_cmds"] }] }

/-- Define the class of nodes, once. -/
def extendConfig (config : Config) : Config :=
  if (config.nodeClass? nodeClassName).isSome then config
  else { config with nodeClasses := config.nodeClasses ++ [nodeClass] }

/-- The place of a file of a node that is mounted. -/
def mountSource (config : Config) (node file : String) : String :=
  let path := Path.join node file
  match config.settings.mountSource with
  | none => path
  | some base => if base.isEmpty then path else Path.join base path

/-- The mounts of a node: the source and the target of every file with a path. -/
def mounts (config : Config) (node : String) : List (String × String) :=
  config.files.filterMap fun file =>
    (file.path.filter fun target => !target.isEmpty).map fun target =>
      (mountSource config node file.name, target)

/-- The name of the generator of mounts. -/
def mountsGeneratorName : String := "clab.filemounts"

/-- The row of a mount. -/
def mountRow (mount : String × String) : Row :=
  Table.setAll {} [("source", mount.1), ("target", mount.2)]

/-- One row for every mount of a node. -/
def mountsGenerator : Generator := fun config network owner =>
  match owner with
  | .node id => .ok ((mounts config (network.node id).name).map mountRow)
  | _ => .error (.generator mountsGeneratorName s!"{network.describe owner} is not a node")

/-- The node of an interface. -/
def nodeOf (network : Network) (id : InterfaceId) : Node :=
  network.node (network.interface id).node

/-- Whether a connection is between two real nodes. -/
def isRealLink (network : Network) (connection : Connection) : Bool :=
  !(nodeOf network connection.source).isVirtual && !(nodeOf network connection.target).isVirtual

/-- The two ends of a link. -/
def linkText (network : Network) (connection : Connection) : String :=
  let endText := fun (id : InterfaceId) =>
    (nodeOf network id).name ++ ":" ++ (network.interface id).name
  "[" ++ endText connection.source ++ ", " ++ endText connection.target ++ "]"

/-- Items behind one and the same start of a line. -/
def listing (start : String) (items : List String) : String :=
  start ++ ("\n" ++ start).intercalate items ++ "\n"

/-- The links of a network. -/
def links (network : Network) : String :=
  listing "  - endpoints: "
    ((network.connections.toList.filter (isRealLink network)).map (linkText network))

/-- The mounts of a node as a listing. -/
def mountListing (config : Config) (node : String) : String :=
  listing "      - " ((mounts config node).map fun mount => mount.1 ++ ":" ++ mount.2)

/-- Give a real node its mounts. -/
def giveMounts (config : Config) (node : Node) : Node :=
  if node.isVirtual then node
  else
    { node with parameters := node.parameters.set mountsKey (mountListing config node.name) }

/-- Give the network its name and its links, and real nodes their mounts. -/
def giveParameters (config : Config) (network : Network) : Network :=
  { network with
    nodes := network.nodes.map (giveMounts config)
    parameters :=
      (network.parameters.set networkNameKey config.name).set linksKey (links network) }

/-- A requirement that is not satisfied. -/
def unsatisfied {α : Type} (reason : String) : Except CompileError α :=
  .error (.moduleRequirement name reason)

/-- Whether a node class lists the startup template. -/
def hasStartup (config : Config) : Bool :=
  config.nodeClasses.any fun definition =>
    definition.templates.any (·.name == startupTemplate)

/-- Check that a node has what it needs. -/
def checkNode (node : Node) : Except CompileError Unit :=
  match neededKeys.find? fun key => !node.parameters.relative.contains key with
  | none => .ok ()
  | some key =>
    unsatisfied s!"every (non-virtual) node must have {key} parameter (none for {node.name})"

/-- Check what a network needs. -/
def check (config : Config) (network : Network) : Except CompileError Unit := do
  if hasStartup config then
    (network.nodes.toList.filter fun node => !node.isVirtual).forM checkNode
  else unsatisfied s!"node config template named {startupTemplate} is required"

end TopoPlan.Containerlab
