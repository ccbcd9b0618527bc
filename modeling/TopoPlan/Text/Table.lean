import Std.Data.ExtTreeMap
import Std.Data.ExtTreeSet

/-!
# Tables and name sets

A table maps names to values and lists its entries in the order of the code
points of the names.  Two tables with the same entries are equal, so a table is
determined by its look-ups and not by the order in which it was filled.
-/

namespace TopoPlan

/-- A finite map from names, listed in the order of their code points. -/
abbrev Table (α : Type) := Std.ExtTreeMap String α compare

/-- A finite set of names, listed in the order of their code points. -/
abbrev NameSet := Std.ExtTreeSet String compare

namespace Table

/-- Every entry of the list in turn, where a later entry replaces an earlier one. -/
def setAll {α : Type} (table : Table α) (entries : List (String × α)) : Table α :=
  entries.foldl (fun current entry => current.insert entry.1 entry.2) table

/-- Every entry of the list whose name is not taken yet; the first entry of a
name is kept. -/
def addAll {α : Type} (table : Table α) (entries : List (String × α)) : Table α :=
  entries.foldl (fun current entry => current.insertIfNew entry.1 entry.2) table

/-- Append a value to the list stored under a name. -/
def push {α : Type} (table : Table (List α)) (name : String) (value : α) : Table (List α) :=
  table.insert name (table.getD name [] ++ [value])

/-- Change every value in the order of the names; the first failure counts. -/
def updateAll {α ε : Type} (table : Table α) (change : α -> Except ε α) :
    Except ε (Table α) :=
  table.toList.foldlM
    (fun (current : Table α) entry => do
      let value <- change entry.2
      pure (current.insert entry.1 value))
    table

end Table

namespace NameSet

/-- Every name of the list is added. -/
def addAll (names : NameSet) (more : List String) : NameSet :=
  more.foldl (fun current name => current.insert name) names

end NameSet

end TopoPlan
