import TopoPlan.Text.Binary64
import TopoPlan.Text.Table

/-!
# Data values

The values that a data document can hold.  A mapping keeps its entries in order,
and its keys are values themselves.
-/

namespace TopoPlan

/-- A value of a data document. -/
inductive Value where
  | null
  | bool (flag : Bool)
  | integer (number : Int)
  | real (number : Binary64)
  | text (content : String)
  | list (items : List Value)
  | mapping (entries : List (Value × Value))
  deriving Inhabited

namespace Value

/-- A mapping with text keys. -/
def fields (entries : List (String × Value)) : Value :=
  .mapping (entries.map fun entry => (.text entry.1, entry.2))

/-- A natural number as a value. -/
def natural (number : Nat) : Value := .integer number

/-- The list of texts. -/
def texts (items : List String) : Value := .list (items.map .text)

/-- The entry of a mapping under a text key. -/
def get? (value : Value) (key : String) : Option Value :=
  match value with
  | .mapping entries =>
    (entries.find? fun entry =>
      match entry.1 with
      | .text found => found == key
      | _ => false).map (·.2)
  | _ => none

/-- The entries of a mapping whose keys are texts. -/
def textEntries (entries : List (Value × Value)) : List (String × Value) :=
  entries.filterMap fun entry =>
    match entry.1 with
    | .text key => some (key, entry.2)
    | _ => none

mutual

/-- The value with the text keys of every mapping in order and each once; the last
entry of a repeated key counts. -/
def sorted : Value -> Value
  | .list items => .list (sortedItems items)
  | .mapping entries =>
    fields ((({} : Table Value).setAll (textEntries (sortedEntries entries))).toList)
  | scalar => scalar

/-- The items of a list, each with its keys in order. -/
def sortedItems : List Value -> List Value
  | [] => []
  | item :: rest => sorted item :: sortedItems rest

/-- The entries of a mapping, each value with its keys in order. -/
def sortedEntries : List (Value × Value) -> List (Value × Value)
  | [] => []
  | (key, value) :: rest => (key, sorted value) :: sortedEntries rest

end

mutual

/-- How many lists and mappings stand inside each other. -/
def depth : Value -> Nat
  | .list items => depthOfItems items + 1
  | .mapping entries => depthOfEntries entries + 1
  | _ => 0

/-- The largest depth of the items of a list. -/
def depthOfItems : List Value -> Nat
  | [] => 0
  | item :: rest => max (depth item) (depthOfItems rest)

/-- The largest depth of the values of a mapping. -/
def depthOfEntries : List (Value × Value) -> Nat
  | [] => 0
  | (_, value) :: rest => max (depth value) (depthOfEntries rest)

end

end Value

end TopoPlan
