import TopoPlan.Config.Basic
import TopoPlan.Network.Description
import TopoPlan.Network.Stage

/-!
# Members

A declaration of members makes every object of the named classes a member of the
object that has the declaration.  The object itself is left out unless the
declaration includes it.
-/

namespace TopoPlan.Membership

/-- The declarations of members of an object, with the classes that made them. -/
def declarationsOf (network : Network) : Scope -> List (String × MemberClass)
  | .node id => (network.node id).memberClasses
  | .interface id => (network.interface id).memberClasses
  | .connection id => (network.connection id).memberClasses
  | _ => []

/-- The objects that may declare members. -/
def referrers (network : Network) : List Scope :=
  network.nodeIds.map Scope.node ++ network.interfaceIds.map Scope.interface ++
    network.connectionIds.map Scope.connection

/-- The members of one class that a declaration gives an object. -/
def membersOf (network : Network) (referrer : Scope) (includeSelf : Bool) (kind : ClassKind)
    (className : String) : List Member :=
  ((network.entered kind className).filter fun target =>
    target != referrer || includeSelf).map fun target =>
      { kind, className, referrer, member := target }

/-- Add the members of one class. -/
def addMembers (config : Config) (referrer : Scope) (includeSelf : Bool) (kind : ClassKind)
    (className : String) : Stage Unit := do
  let network <- get
  if !config.hasClass kind className then
    throw (.unknownClass kind.name className
      ("member class of " ++ network.describe referrer))
  set ((membersOf network referrer includeSelf kind className).foldl Network.addMember network)

/-- Add the members that a declaration gives an object. -/
def addDeclared (config : Config) (referrer : Scope) (declaration : String × MemberClass) :
    Stage Unit := do
  match declaration.2.target with
  | .error fault =>
    throw (.invalidMemberClass ((<- get).describe referrer) declaration.1 fault)
  | .ok (kind, classNames) =>
    classNames.forM (addMembers config referrer declaration.2.includeSelf kind)

/-- Add the members of all objects. -/
def build (config : Config) : Stage Unit := do
  (referrers (<- get)).forM fun referrer => do
    (declarationsOf (<- get) referrer).forM (addDeclared config referrer)

end TopoPlan.Membership
