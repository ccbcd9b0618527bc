import TopoPlan.Config.Template
import TopoPlan.Data.Value
import TopoPlan.Error
import TopoPlan.Text.Table

/-!
# Class definitions

A class collects what its objects share: policies and rules that they request,
parameters, declarations of members and neighbors, and, for a primary class, a
naming stem and attributes of a platform.
-/

namespace TopoPlan

/-- A declaration that all objects of some classes become members. -/
structure MemberClass where
  node : String := ""
  nodes : List String := []
  interface : String := ""
  interfaces : List String := []
  connection : String := ""
  connections : List String := []
  includeSelf : Bool := false
  templates : List Template := []
  deriving DecidableEq, Inhabited

namespace MemberClass

/-- The class names given for one kind. -/
def namesOf (single : String) (many : List String) : List String :=
  if single.isEmpty then many else single :: many

/-- The kinds for which class names are given. -/
def specified (member : MemberClass) : List (ClassKind × List String) :=
  [(.node, namesOf member.node member.nodes),
    (.interface, namesOf member.interface member.interfaces),
    (.connection, namesOf member.connection member.connections)].filter
      fun entry => !entry.2.isEmpty

/-- The one kind for which class names are given, and the names. -/
def target (member : MemberClass) : Except MemberFault (ClassKind × List String) :=
  match member.specified with
  | [] => .error .noClass
  | [only] => .ok only
  | first :: second :: _ => .error (.twoKinds first.1 second.1)

end MemberClass

/-- A declaration that neighbors in a layer are wanted. -/
structure NeighborClass where
  layer : String
  templates : List Template := []
  deriving DecidableEq, Inhabited

/-- A class of the network. -/
structure NetworkClass where
  name : String
  values : Table Value := {}
  templates : List Template := []
  deriving Inhabited

/-- A class of nodes. -/
structure NodeClass where
  name : String
  primary : Bool := false
  isVirtual : Bool := false
  policies : List String := []
  params : List String := []
  values : Table Value := {}
  /-- Policies given to the interfaces of a node. -/
  interfacePolicies : List String := []
  templates : List Template := []
  members : List MemberClass := []
  stem : Option String := none
  managementClass : Option String := none
  tinet : Table Value := {}
  clab : Table Value := {}
  deriving Inhabited

/-- A class of interfaces. -/
structure InterfaceClass where
  name : String
  primary : Bool := false
  isVirtual : Bool := false
  policies : List String := []
  params : List String := []
  values : Table Value := {}
  templates : List Template := []
  neighbors : List NeighborClass := []
  members : List MemberClass := []
  /-- Layers given to the connection of an interface. -/
  layers : List String := []
  stem : Option String := none
  tinet : Table Value := {}
  clab : Table Value := {}
  deriving Inhabited

/-- A class of connections. -/
structure ConnectionClass where
  name : String
  primary : Bool := false
  isVirtual : Bool := false
  policies : List String := []
  layers : List String := []
  params : List String := []
  values : Table Value := {}
  templates : List Template := []
  neighbors : List NeighborClass := []
  members : List MemberClass := []
  /-- Naming stem of both ends. -/
  stem : Option String := none
  tinet : Table Value := {}
  clab : Table Value := {}
  deriving Inhabited

/-- A class of groups. -/
structure GroupClass where
  name : String
  isVirtual : Bool := false
  params : List String := []
  values : Table Value := {}
  templates : List Template := []
  deriving Inhabited

/-- A class of segments of one layer. -/
structure SegmentClass where
  name : String
  layer : String
  params : List String := []
  templates : List Template := []
  deriving DecidableEq, Inhabited

end TopoPlan
