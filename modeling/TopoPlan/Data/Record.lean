import TopoPlan.Data.Doc

/-!
# Records

A record is read field by field.  Fields that nobody asks for are ignored, a field
that is asked for must not occur twice, and where the document allows it a list
stands for the fields in the order in which they are asked for.
-/

namespace TopoPlan

/-- The places where the fields of a record are written. -/
inductive Record where
  | named (entries : List (String × Doc))
  | positional (items : List Doc)
  deriving Inhabited

/-- A reader of fields; its state lists the names asked for so far. -/
abbrev FieldReader (α : Type) := StateT (List String) (ReaderT Record Option) α

namespace Record

/-- The document of a field, if there is one. -/
def field? (name : String) : FieldReader (Option Doc) := do
  let asked <- get
  set (asked ++ [name])
  match <- read with
  | .named entries => pure (entries.lookup name)
  | .positional items => pure items[asked.length]?

/-- A field that must be there. -/
def required {α : Type} (name : String) (item? : Doc -> Option α) : FieldReader α := do
  match <- field? name with
  | some doc => liftM (m := Option) (item? doc)
  | none => failure

/-- A field with a default. -/
def defaulted {α : Type} (name : String) (default : α) (item? : Doc -> Option α) :
    FieldReader α := do
  match <- field? name with
  | some doc => liftM (m := Option) (item? doc)
  | none => pure default

/-- A field that may be absent or null. -/
def optional {α : Type} (name : String) (item? : Doc -> Option α) :
    FieldReader (Option α) :=
  defaulted name none (Doc.maybe? item?)

/-- Whether the fields fit what was asked for: no repeated name, no item too many. -/
def fits (asked : List String) : Record -> Bool
  | .named entries => asked.all fun name => (entries.filter (·.1 == name)).length <= 1
  | .positional items => items.length <= asked.length

/-- The fields of a document that is a record. -/
def ofDoc? : Doc -> Option Record
  | .mapping entries => do
    let named <- entries.mapM fun entry => do
      let name <- entry.1.text?
      pure (name, entry.2)
    pure (.named named)
  | .list true items => some (.positional items)
  | .plain "" => some (.named [])
  | _ => none

/-- Read a document that is a record. -/
def read? {α : Type} (reader : FieldReader α) (doc : Doc) : Option α := do
  let record <- ofDoc? doc
  let (result, asked) <- (reader.run []).run record
  if record.fits asked then pure result else none

end Record

end TopoPlan
