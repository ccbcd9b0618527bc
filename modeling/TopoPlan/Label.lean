import TopoPlan.Text.Blank
import TopoPlan.Text.Table

/-!
# Labels of topology elements

An element of a topology carries free-form labels.  Labels are written alone or
several in one text, separated by `,` or `;`.  Each is one of five kinds:

* `@place` names the element,
* `@alias=place` refers to a named element,
* `key=value` gives a parameter,
* `kind#class` addresses a class to a related object of that kind,
* anything else names a class of the element itself.
-/

namespace TopoPlan

/-- A class label for a related object, such as `segment#lan`. -/
structure RelationalLabel where
  kind : String
  className : String
  deriving DecidableEq, Inhabited

/-- The labels of one element, separated by kind. -/
structure Labels where
  classes : List String := []
  relational : List RelationalLabel := []
  places : List String := []
  /-- Parameters given by labels; the first value of a key counts. -/
  values : Table String := {}
  /-- Place labels by alias; the first target of an alias counts. -/
  aliases : Table String := {}
  deriving DecidableEq, Inhabited

namespace Labels

/-- The class that applies to every object of a kind. -/
def allClass : String := "all"

/-- The class of an object that carries no class label. -/
def defaultClass : String := "default"

/-- A label separates from the next one by one of these characters. -/
def isSeparator (character : Char) : Bool :=
  character == ',' || character == ';'

/-- The labels written in one text: trimmed, without the empty ones. -/
def splitText (text : String) : List String :=
  (Text.splitWhere isSeparator text.toList).map Text.trimList
    |>.filter (fun label => !label.isEmpty)
    |>.map String.ofList

/-- The labels written in several texts, in order. -/
def split (texts : List String) : List String :=
  texts.flatMap splitText

/-- Add one label to the labels read before it. -/
def add (labels : Labels) (label : String) : Labels :=
  match Text.after? "@" label with
  | some place =>
    match Text.cutOnce '=' place with
    | some (aliasName, target) =>
      { labels with aliases := labels.aliases.insertIfNew (Text.trim aliasName) (Text.trim target) }
    | none => { labels with places := labels.places ++ [place] }
  | none =>
    match Text.cutOnce '=' label with
    | some (key, value) =>
      { labels with values := labels.values.insertIfNew (Text.trim key) (Text.trim value) }
    | none =>
      match Text.cutOnce '#' label with
      | some (kind, className) =>
        { labels with
          relational := labels.relational ++ [⟨Text.trim kind, Text.trim className⟩] }
      | none => { labels with classes := labels.classes ++ [label] }

/-- Classify the labels written in several texts. -/
def ofTexts (texts : List String) : Labels :=
  (split texts).foldl add {}

/-- The class names of an element: `all` and `default` where the configuration
defines them and they apply, then the class labels. -/
def withImplicit (labels : Labels) (hasAll hasDefault : Bool) : List String :=
  (if hasAll && !labels.classes.contains allClass then [allClass] else []) ++
    (if hasDefault && labels.classes.isEmpty then [defaultClass] else []) ++ labels.classes

/-- The classes addressed to a related object of the given kind. -/
def relationalFor (labels : Labels) (kind : String) : List String :=
  (labels.relational.filter fun label => label.kind == kind).map (·.className)

end Labels

end TopoPlan
