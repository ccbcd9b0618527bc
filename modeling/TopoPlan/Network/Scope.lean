/-!
# Scopes

A scope is an object that has parameters of its own.  Objects are kept in lists by
kind, and a scope names one by its kind and its position.
-/

namespace TopoPlan

/-- Position of a node. -/
abbrev NodeId := Nat

/-- Position of an interface. -/
abbrev InterfaceId := Nat

/-- Position of a connection. -/
abbrev ConnectionId := Nat

/-- Position of a group. -/
abbrev GroupId := Nat

/-- Position of a segment. -/
abbrev SegmentId := Nat

/-- Position of a neighbor. -/
abbrev NeighborId := Nat

/-- Position of a member. -/
abbrev MemberId := Nat

/-- Position of an attachment. -/
abbrev AttachmentId := Nat

/-- An object with parameters of its own. -/
inductive Scope where
  | network
  | node (id : NodeId)
  | interface (id : InterfaceId)
  | connection (id : ConnectionId)
  | group (id : GroupId)
  | segment (id : SegmentId)
  | neighbor (id : NeighborId)
  | member (id : MemberId)
  deriving DecidableEq, Inhabited

namespace Scope

/-- The word for the kind of an object. -/
def kind : Scope -> String
  | .network => "network"
  | .node _ => "node"
  | .interface _ => "interface"
  | .connection _ => "connection"
  | .group _ => "group"
  | .segment _ => "segment"
  | .neighbor _ => "neighbor"
  | .member _ => "member"

end Scope

end TopoPlan
