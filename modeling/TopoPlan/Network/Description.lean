import TopoPlan.Network.Basic

/-!
# Names of objects

The key that orders objects of one kind, and the description that error messages
use.
-/

namespace TopoPlan.Network

/-- The key of an interface: the names of its node and of itself. -/
def interfaceKey (network : Network) (id : InterfaceId) : String :=
  let interface := network.interface id
  (network.node interface.node).name ++ "." ++ interface.name

/-- The key of an object.  A member takes the keys of the two objects that it
relates, which are followed for at most `steps` members. -/
def keyWithin (network : Network) : (steps : Nat) -> Scope -> String
  | _, .network => ""
  | _, .node id => (network.node id).name
  | _, .interface id => network.interfaceKey id
  | _, .connection id => (network.connection id).name
  | _, .group id => (network.group id).name
  | _, .segment id => (network.segment id).name
  | _, .neighbor id =>
    let neighbor := network.neighbor id
    network.interfaceKey neighbor.self ++ ":" ++ network.interfaceKey neighbor.peer
  | 0, .member _ => ""
  | steps + 1, .member id =>
    let member := network.member id
    keyWithin network steps member.referrer ++ ":" ++ keyWithin network steps member.member

/-- The key of an object. -/
def sortKey (network : Network) (scope : Scope) : String :=
  network.keyWithin (network.members.size + 1) scope

/-- The description of an object; members are followed for at most `steps`. -/
def describeWithin (network : Network) : (steps : Nat) -> Scope -> String
  | _, .network => "network"
  | _, .neighbor id =>
    let neighbor := network.neighbor id
    "neighbor " ++ network.interfaceKey neighbor.peer ++ " of " ++
      network.interfaceKey neighbor.self
  | 0, .member _ => "member"
  | steps + 1, .member id =>
    let member := network.member id
    "member " ++ describeWithin network steps member.member ++ " of " ++
      describeWithin network steps member.referrer
  | _, scope => scope.kind ++ " " ++ network.sortKey scope

/-- The description of an object: its kind and its key. -/
def describe (network : Network) (scope : Scope) : String :=
  network.describeWithin (network.members.size + 1) scope

/-- The classes of an object. -/
def classesOf (network : Network) : Scope -> List String
  | .network => network.classes
  | .node id => (network.node id).classes
  | .interface id => (network.interface id).classes
  | .connection id => (network.connection id).classes
  | .group id => (network.group id).classes
  | .segment id => (network.segment id).classes
  | .neighbor _ | .member _ => []

end TopoPlan.Network

namespace TopoPlan

/-- The kind of the classes of an object; neighbors and members have none. -/
def Scope.classKind? : Scope -> Option ClassKind
  | .network => some .network
  | .node _ => some .node
  | .interface _ => some .interface
  | .connection _ => some .connection
  | .group _ => some .group
  | .segment _ => some .segment
  | .neighbor _ | .member _ => none

end TopoPlan
