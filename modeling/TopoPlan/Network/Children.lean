import TopoPlan.Network.Description

/-!
# Children of objects

The objects below an object, sorted into child classes.  A child class is a kind of
objects, the neighbors of a layer or the members of a declared class, and is
written as a key.
-/

namespace TopoPlan

/-- A class of children. -/
inductive ChildClass where
  | kind (kind : ClassKind)
  | neighbors (layer : String)
  | members (kind : ClassKind) (className : String)
  deriving DecidableEq, Inhabited

namespace ChildClass

/-- The start of the keys of neighbors. -/
def neighborStart : String := "neighbor_"

/-- The start of the keys of members. -/
def memberStart : String := "member_"

/-- The key of a child class. -/
def key : ChildClass -> String
  | .kind objects => objects.name
  | .neighbors layer => neighborStart ++ layer
  | .members objects className => memberStart ++ objects.name ++ "_" ++ className

/-- The members that a key stands for: a kind and, after the next `_`, a class. -/
def membersOfKey? (key : String) : Option ChildClass := do
  let rest <- Text.after? memberStart key
  let (word, className) <- Text.cutOnce '_' rest
  let objects <- ClassKind.ofName? word
  pure (.members objects className)

/-- The child class that a key stands for. -/
def ofKey? (key : String) : Option ChildClass :=
  membersOfKey? key <|> (Text.after? neighborStart key).map .neighbors <|>
    (ClassKind.ofName? key).map .kind

end ChildClass

namespace Network

/-- The keys of members, in order and each once. -/
def memberKeys (network : Network) (members : List MemberId) : List String :=
  (NameSet.addAll {} (members.map fun id =>
    let member := network.member id
    (ChildClass.members member.kind member.className).key)).toList

/-- The child classes of an object. -/
def childClasses (network : Network) : Scope -> List String
  | .network => ["node", "interface", "connection", "group", "segment"]
  | .node id => "interface" :: network.memberKeys (network.node id).members
  | .interface id =>
    let interface := network.interface id
    (interface.neighborLayers.toList.map fun layer => (ChildClass.neighbors layer).key) ++
      network.memberKeys interface.members
  | .connection id => "interface" :: network.memberKeys (network.connection id).members
  | .segment _ => ["interface", "connection"]
  | .group _ => ["node"]
  | .neighbor _ | .member _ => []

/-- The members entered at an object. -/
def membersAt (network : Network) : Scope -> List MemberId
  | .node id => (network.node id).members
  | .interface id => (network.interface id).members
  | .connection id => (network.connection id).members
  | _ => []

/-- The objects of one kind below an object, if it has such. -/
def childrenOfKind (network : Network) : Scope -> ClassKind -> Option (List Scope)
  | .network, .node => some (network.nodeIds.map .node)
  | .network, .interface => some (network.interfaceIds.map .interface)
  | .network, .connection => some (network.connectionIds.map .connection)
  | .network, .group => some (network.groupIds.map .group)
  | .network, .segment => some (network.segmentIds.map .segment)
  | .node id, .interface => some ((network.node id).interfaces.map .interface)
  | .connection id, .interface =>
    let connection := network.connection id
    some [.interface connection.source, .interface connection.target]
  | .segment id, .interface => some ((network.segment id).interfaces.map .interface)
  | .segment id, .connection => some ((network.segment id).connections.map .connection)
  | .group id, .node => some ((network.group id).nodes.map .node)
  | _, _ => none

/-- The objects below an object in one child class, if it has such. -/
def childrenIn (network : Network) (scope : Scope) : ChildClass -> Option (List Scope)
  | .kind kind => network.childrenOfKind scope kind
  | .neighbors layer =>
    match scope with
    | .interface id => some (((network.interface id).neighbors.getD layer []).map .neighbor)
    | _ => some []
  | .members kind className =>
    some (((network.membersAt scope).filter fun id =>
      let member := network.member id
      member.kind = kind && member.className == className).map .member)

/-- The objects below an object under the key of a child class. -/
def children (network : Network) (scope : Scope) (key : String) :
    Except CompileError (List Scope) :=
  match (ChildClass.ofKey? key).bind (network.childrenIn scope) with
  | some found => .ok found
  | none => .error (.unknownClass "child" key (network.describe scope))

/-- The child classes whose objects must be complete before an object. -/
def dependencyClasses (network : Network) : Scope -> List String
  | .network => ["node", "group", "connection", "segment"]
  | .connection id => network.memberKeys (network.connection id).members ++ ["interface"]
  | scope => network.childClasses scope

end Network

end TopoPlan
