import TopoPlan.Text.Blank

/-!
# Paths

Paths are texts whose parts are joined by `/`.  Joining keeps an absolute second
path as it is and adds a separator only where none stands.
-/

namespace TopoPlan.Path

/-- Whether a path starts at the root. -/
def isAbsolute (path : String) : Bool := path.toList.head? == some '/'

/-- A path below a directory. -/
def join (directory path : String) : String :=
  if isAbsolute path || directory.isEmpty then path
  else if directory.toList.getLast? == some '/' then directory ++ path
  else directory ++ "/" ++ path

/-- The parts of a path, without empty ones and `.`. -/
def parts (path : String) : List String :=
  ((Text.splitWhere (· == '/') path.toList).map String.ofList).filter fun part =>
    part != "" && part != "."

/-- The pieces of a path between separators, without the ones at the end that stand
for nothing; the first one tells whether the path starts at the root. -/
def pieces (path : String) : String × List String :=
  match (Text.splitWhere (· == '/') path.toList).map String.ofList with
  | [] => ("", [])
  | first :: rest => (first, dropIdle rest)
where
  dropIdle (rest : List String) : List String :=
    (rest.reverse.dropWhile fun piece => piece == "" || piece == ".").reverse

/-- The path without its last part: the root and the empty path have none. -/
def parent? (path : String) : Option String :=
  match pieces path with
  | (first, []) => if first.isEmpty then none else some ""
  | (first, rest) =>
    match pieces.dropIdle rest.dropLast with
    | [] => some (if first.isEmpty then "/" else first)
    | front => some ("/".intercalate (first :: front))

/-- The last part of a path, unless it is `..` or there is none. -/
def fileName? (path : String) : Option String :=
  match (parts path).getLast? with
  | some ".." => none
  | found => found

/-- What follows the last point of the last part, unless that part starts with its
only point. -/
def extension? (path : String) : Option String := do
  let name <- fileName? path
  let (suffix, stem) := name.toList.reverse.span (· != '.')
  match stem with
  | [] | ['.'] => none
  | _ => pure (String.ofList suffix.reverse)

end TopoPlan.Path
