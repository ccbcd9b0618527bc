import TopoPlan.Data.Plain
import TopoPlan.Text.Table

/-!
# Documents

A document is data as it was written: a scalar without quotes has no type until a
reader asks for one.  Readers here are strict; they give no result when a part of
the document has not the form that is asked for.
-/

namespace TopoPlan

/-- Data as written. -/
inductive Doc where
  /-- A scalar of known type. -/
  | scalar (value : Value)
  /-- A scalar without quotes; its type depends on what is asked for. -/
  | plain (content : String)
  /-- A list; `positional` tells whether its items may stand for the fields of a
  record in order. -/
  | list (positional : Bool) (items : List Doc)
  | mapping (entries : List (Doc × Doc))
  deriving Inhabited

namespace Doc

mutual

/-- The document of a typed value. -/
def ofValue : Value -> Doc
  | .list items => .list true (ofValues items)
  | .mapping entries => .mapping (ofEntries entries)
  | .null => .scalar .null
  | .bool flag => .scalar (.bool flag)
  | .integer number => .scalar (.integer number)
  | .real number => .scalar (.real number)
  | .text content => .scalar (.text content)

/-- The documents of typed values. -/
def ofValues : List Value -> List Doc
  | [] => []
  | item :: rest => ofValue item :: ofValues rest

/-- The documents of typed entries. -/
def ofEntries : List (Value × Value) -> List (Doc × Doc)
  | [] => []
  | (key, value) :: rest => (ofValue key, ofValue value) :: ofEntries rest

end

mutual

/-- How many lists and mappings stand inside each other. -/
def depth : Doc -> Nat
  | .list _ items => depthOfItems items + 1
  | .mapping entries => depthOfEntries entries + 1
  | .scalar value => value.depth
  | .plain _ => 0

/-- The largest depth of the items of a list. -/
def depthOfItems : List Doc -> Nat
  | [] => 0
  | item :: rest => max (depth item) (depthOfItems rest)

/-- The largest depth of the keys and values of a mapping. -/
def depthOfEntries : List (Doc × Doc) -> Nat
  | [] => 0
  | (key, value) :: rest => max (max (depth key) (depth value)) (depthOfEntries rest)

end

/-- Whether two scalars are the same key of a mapping. -/
def sameKey : Value -> Value -> Bool
  | .null, .null => true
  | .bool left, .bool right => left == right
  | .integer left, .integer right => left == right
  | .real left, .real right => left == right
  | .text left, .text right => left == right
  | _, _ => false

/-- Whether no key occurs twice. -/
def distinctKeys : List (Value × Value) -> Bool
  | [] => true
  | (key, _) :: rest => rest.all (fun entry => !sameKey key entry.1) && distinctKeys rest

mutual

/-- The typed value of a document; a mapping must not repeat a key. -/
def value? : Doc -> Option Value
  | .scalar value => some value
  | .plain content => Plain.value? content
  | .list _ items => (values? items).map .list
  | .mapping entries =>
    (entries? entries).bind fun found =>
      if distinctKeys found then some (.mapping found) else none

/-- The typed values of documents. -/
def values? : List Doc -> Option (List Value)
  | [] => some []
  | item :: rest => do
    let value <- value? item
    let values <- values? rest
    pure (value :: values)

/-- The typed entries of a mapping. -/
def entries? : List (Doc × Doc) -> Option (List (Value × Value))
  | [] => some []
  | (key, item) :: rest => do
    let key <- value? key
    let value <- value? item
    let entries <- entries? rest
    pure ((key, value) :: entries)

end

/-- A text; a scalar without quotes is taken as written. -/
def text? : Doc -> Option String
  | .scalar (.text content) => some content
  | .plain content => some content
  | _ => none

/-- A truth value. -/
def bool? : Doc -> Option Bool
  | .scalar (.bool flag) => some flag
  | .plain content => Plain.bool? content
  | _ => none

/-- An integer between two bounds, both included. -/
def integerIn? (low high : Int) (doc : Doc) : Option Int := do
  let number <-
    match doc with
    | .scalar (.integer number) => some number
    | .plain content => Plain.integer? content
    | _ => none
  if low <= number && number <= high then pure number else none

/-- A signed integer of 64 bits. -/
def word? (doc : Doc) : Option Int :=
  doc.integerIn? (-(Int.pow 2 63)) (Int.pow 2 63 - 1)

/-- One of a set of words. -/
def oneOf? {α : Type} (words : List (String × α)) (doc : Doc) : Option α := do
  let content <- doc.text?
  words.lookup content

/-- A list of documents of one form; nothing at all counts as an empty list. -/
def list? {α : Type} (item? : Doc -> Option α) : Doc -> Option (List α)
  | .list _ items => items.mapM item?
  | .plain "" => some []
  | _ => none

/-- A list of texts. -/
def texts? (doc : Doc) : Option (List String) := doc.list? text?

/-- A mapping from texts; the last entry of a repeated key counts, and nothing at
all counts as an empty mapping. -/
def table? {α : Type} (item? : Doc -> Option α) : Doc -> Option (Table α)
  | .mapping entries => do
    let found <- entries.mapM fun entry => do
      let key <- entry.1.text?
      let value <- item? entry.2
      pure (key, value)
    pure (({} : Table α).setAll found)
  | .plain "" => some {}
  | _ => none

/-- A document, or nothing where a null is written. -/
def maybe? {α : Type} (item? : Doc -> Option α) (doc : Doc) : Option (Option α) :=
  match doc with
  | .scalar .null => some none
  | .plain content => if Plain.isNull content then some none else (item? doc).map some
  | _ => (item? doc).map some

end Doc

end TopoPlan
