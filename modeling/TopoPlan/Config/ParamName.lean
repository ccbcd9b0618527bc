import TopoPlan.Text.Blank

/-!
# Parameter names

A compilation derives parameters from others by putting a stem before their names.
Names that a configuration gives must not start with one of these stems, so that
derived parameters never meet given ones.
-/

namespace TopoPlan

/-- Why a parameter name is refused. -/
inductive NameFault where
  | reserved (name : String)
  | reservedStem (name stem purpose suggestion : String)
  deriving DecidableEq, Inhabited

/-- The wording of a name fault. -/
def NameFault.message : NameFault -> String
  | .reserved name =>
    s!"'{name}' is a reserved name (used internally for object names in templates); " ++
      "please choose a different name"
  | .reservedStem name stem purpose suggestion =>
    s!"'{name}' uses reserved prefix '{stem}' ({purpose}); " ++
      s!"please rename to avoid this prefix (e.g., '{suggestion}' instead)"

namespace ParamName

/-- The parameter that holds the name of an object. -/
def objectName : String := "name"

/-- The reserved stems and what they are for. -/
def reservedStems : List (String × String) :=
  [("node_", "for cross-object node references"),
    ("conn_", "for cross-object connection references"),
    ("group_", "for cross-object group references"),
    ("opp_", "for opposite interface references"),
    ("n_", "for neighbor references"),
    ("m_", "for member references"),
    ("self_", "for interface config block references"),
    ("nodes_", "for child nodes config references"),
    ("interfaces_", "for child interfaces config references"),
    ("connections_", "for child connections config references"),
    ("segments_", "for child segments config references"),
    ("groups_", "for child groups config references"),
    ("neighbors_", "for child neighbors config references"),
    ("members_", "for child members config references"),
    ("values_", "for Value class references")]

/-- A name to use instead of one with a reserved stem. -/
def suggest (name stem rest : String) : String :=
  let rest := if rest.isEmpty then "param" else rest
  if stem == "node_" then "nd_" ++ rest
  else if stem == "conn_" then "connection_" ++ rest
  else if stem == "group_" then "grp_" ++ rest
  else "my_" ++ name

/-- Why a name must not be given to a parameter, if it must not. -/
def fault? (name : String) : Option NameFault :=
  if name == objectName then some (.reserved name)
  else reservedStems.findSome? fun entry =>
    (Text.after? entry.1 name).map fun rest =>
      .reservedStem name entry.1 entry.2 (suggest name entry.1 rest)

end ParamName

end TopoPlan
