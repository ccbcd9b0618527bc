/-!
# Kinds of classes

Classes are defined for six kinds of objects.
-/

namespace TopoPlan

/-- The kinds of objects that classes can be defined for. -/
inductive ClassKind where
  | network
  | node
  | interface
  | connection
  | group
  | segment
  deriving DecidableEq, Inhabited

namespace ClassKind

/-- All kinds, in the order in which a configuration lists them. -/
def all : List ClassKind :=
  [.network, .node, .interface, .connection, .group, .segment]

/-- The word for a kind. -/
def name : ClassKind -> String
  | .network => "network"
  | .node => "node"
  | .interface => "interface"
  | .connection => "connection"
  | .group => "group"
  | .segment => "segment"

/-- The kind with the given word. -/
def ofName? (word : String) : Option ClassKind :=
  all.find? fun kind => kind.name == word

end ClassKind

end TopoPlan
