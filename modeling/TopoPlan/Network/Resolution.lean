import TopoPlan.Network.Management
import TopoPlan.Network.Membership
import TopoPlan.Network.Naming

/-!
# Resolution

The first part of a compilation: classes act, objects without a name are named,
management interfaces and members are added.
-/

namespace TopoPlan.Network

/-- Resolve the classes, names and members of a network. -/
def resolve (config : Config) (extra : ExtraClasses) : Stage Unit := do
  ClassEffects.resolveClasses config extra
  Naming.nameNodes config
  Naming.nameInterfaces
  Naming.nameConnections
  Management.addInterfaces config
  Membership.build config

end TopoPlan.Network
