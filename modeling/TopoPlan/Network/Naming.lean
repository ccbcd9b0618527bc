import TopoPlan.Config.Basic
import TopoPlan.Network.Description
import TopoPlan.Network.Stage

/-!
# Names of objects without a name

A new name is a stem followed by the least number, counted from a start for each
stem, that makes a name nobody has.
-/

namespace TopoPlan

/-- Names in use, and the next number to try for each stem. -/
structure NamePool where
  taken : NameSet := {}
  counters : Table Nat := {}
  deriving Inhabited

namespace NamePool

/-- A name made of a stem and a number. -/
def numbered (stem : String) (number : Nat) : String := stem ++ Numeral.text number

/-- The first number from the given one on whose name is free.  One of any
`taken.size + 1` numbers is free, so as many steps suffice. -/
def firstFree (taken : NameSet) (stem : String) : (steps number : Nat) -> Nat
  | 0, number => number
  | steps + 1, number =>
    if taken.contains (numbered stem number) then firstFree taken stem steps (number + 1)
    else number

/-- A new name for a stem. -/
def fresh (pool : NamePool) (stem : String) (start : Nat) : String × NamePool :=
  let number := firstFree pool.taken stem (pool.taken.size + 1) (pool.counters.getD stem start)
  let name := numbered stem number
  (name,
    { taken := pool.taken.insert name, counters := pool.counters.insert stem (number + 1) })

/-- The first entry that also occurs earlier. -/
def firstRepeated : List String -> List String -> Option String
  | _, [] => none
  | seen, name :: rest =>
    if seen.contains name then some name else firstRepeated (name :: seen) rest

end NamePool

namespace Naming

/-- Name a node, unless its name is kept. -/
def nameNode (keepNames : Bool) (state : NamePool × Network) (id : NodeId) :
    NamePool × Network :=
  let (pool, network) := state
  let node := network.node id
  if keepNames && !node.name.isEmpty then state
  else
    let (name, pool) := pool.fresh node.stem 1
    (pool, network.updateNode id fun found => { found with name })

/-- Name the nodes without a name, or all nodes if the settings say so, counting
from one.  Names given twice are refused. -/
def nameNodes (config : Config) : Stage Unit := do
  let network <- get
  let keepNames := !config.settings.renamesNodes
  let given := (network.nodes.toList.map (·.name)).filter fun name =>
    keepNames && !name.isEmpty
  let (_, named) := network.nodeIds.foldl (nameNode keepNames)
    ({ taken := NameSet.addAll {} given }, network)
  set named
  match NamePool.firstRepeated [] (named.nodes.toList.map (·.name)) with
  | some name => throw (.duplicateName "node" name)
  | none => pure ()

/-- Name an interface that has no name. -/
def nameInterface (state : NamePool × Network) (id : InterfaceId) : NamePool × Network :=
  let (pool, network) := state
  let interface := network.interface id
  if !interface.name.isEmpty then state
  else
    let (name, pool) := pool.fresh interface.stem 0
    (pool, network.updateInterface id fun found => { found with name })

/-- Interfaces of a node have names, no two the same. -/
def checkInterfaces (network : Network) (node : NodeId) :
    (seen : List String) -> List InterfaceId -> Except CompileError Unit
  | _, [] => .ok ()
  | seen, id :: rest =>
    let name := (network.interface id).name
    if name.isEmpty then .error (.unnamedInterface (network.node node).name)
    else if seen.contains name then
      .error (.duplicateName "interface" (network.sortKey (.interface id)))
    else checkInterfaces network node (name :: seen) rest

/-- Name the interfaces of a node that have no name, counting from zero. -/
def nameInterfacesOf (node : NodeId) : Stage Unit := do
  let network <- get
  let interfaces := (network.node node).interfaces
  let given := (interfaces.map fun id => (network.interface id).name).filter (!·.isEmpty)
  let (_, named) := interfaces.foldl nameInterface ({ taken := NameSet.addAll {} given }, network)
  set named
  Stage.ofExcept (checkInterfaces named node [] interfaces)

/-- Name the interfaces of all nodes. -/
def nameInterfaces : Stage Unit := do
  (<- get).nodeIds.forM nameInterfacesOf

/-- The name of a connection: the keys of its ends. -/
def connectionName (network : Network) (id : ConnectionId) : String :=
  let connection := network.connection id
  network.interfaceKey connection.source ++ "--" ++ network.interfaceKey connection.target

/-- Name all connections after their ends. -/
def nameConnections : Stage Unit :=
  modify fun network => network.connectionIds.foldl
    (fun current id => current.updateConnection id fun connection =>
      { connection with name := connectionName current id }) network

end Naming

end TopoPlan
