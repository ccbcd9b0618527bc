import TopoPlan.Text.Files
import TopoPlan.Text.Path
import TopoPlan.Text.Table

/-!
# Trees of files

Files and directories below one directory, with what reading a text and writing a
text do to them.  A path is followed part by part, and every part but the last must
lead through a directory.
-/

namespace TopoPlan

/-- Files and directories by path; the parts of a path are joined by `/`. -/
structure FileTree where
  /-- The texts of files; a file may hold no text. -/
  files : Table (Option String) := {}
  directories : NameSet := {}
  deriving Inhabited

namespace FileTree

/-- The key of a place, given by its parts. -/
def key (place : List String) : String := "/".intercalate place

/-- Whether a place is a directory; the place without parts is one. -/
def isDirectory (tree : FileTree) (place : List String) : Bool :=
  place.isEmpty || tree.directories.contains (key place)

/-- Whether a place is a file. -/
def isFile (tree : FileTree) (place : List String) : Bool := tree.files.contains (key place)

/-- The place that a part leads to. -/
def enter (place : List String) (part : String) : List String :=
  if part == ".." then place.dropLast else place ++ [part]

/-- Why a place cannot be passed through, if it cannot. -/
def obstacle? (tree : FileTree) (place : List String) : Option FileFault :=
  if tree.isDirectory place then none
  else if tree.isFile place then some .notDirectory
  else some .notFound

/-- Follow parts from a place. -/
def follow (tree : FileTree) (place : List String) : List String -> Except FileFault (List String)
  | [] => .ok place
  | part :: rest =>
    match tree.obstacle? place with
    | some fault => .error fault
    | none => follow tree (enter place part) rest

/-- The place of a path, whether there is something or not. -/
def locate (tree : FileTree) (path : String) : Except FileFault (List String) :=
  if path.isEmpty || Path.isAbsolute path then .error .notFound
  else tree.follow [] (Path.parts path)

/-- Whether a path can only be a directory, because it ends with a separator. -/
def endsOpen (path : String) : Bool := path.toList.getLast? == some '/'

/-- The text of a file. -/
def textAt (tree : FileTree) (path : String) : Except FileFault String := do
  let place <- tree.locate path
  if tree.isDirectory place then throw .isDirectory
  else
    match tree.files[key place]? with
    | none => throw .notFound
    | some content =>
      if endsOpen path then throw .notDirectory
      else
        match content with
        | none => throw .invalidText
        | some text => pure text

/-- The text files of a tree. -/
def readText (tree : FileTree) : TextFiles where
  text := tree.textAt

/-- Make a directory of every place on the way along parts. -/
def makeAlong (tree : FileTree) (place : List String) : List String -> Except FileFault FileTree
  | [] => .ok tree
  | part :: rest =>
    let next := enter place part
    if tree.isFile next then .error (if rest.isEmpty then .alreadyExists else .notDirectory)
    else
      let tree :=
        if tree.isDirectory next then tree
        else { tree with directories := tree.directories.insert (key next) }
      makeAlong tree next rest

/-- Make a directory with those that it lies in. -/
def makeDirectory (tree : FileTree) (path : String) : Except FileFault FileTree :=
  makeAlong tree [] (Path.parts path)

/-- Write a text to a file in a directory that is there. -/
def writeText (tree : FileTree) (path content : String) : Except FileFault FileTree := do
  let place <- tree.locate path
  if tree.isDirectory place || endsOpen path then throw .isDirectory
  else pure { tree with files := tree.files.insert (key place) (some content) }

/-- Put a file and the directories that it lies in into a tree. -/
def put (tree : FileTree) (path : String) (content : Option String) : FileTree :=
  let place := Path.parts path
  match makeAlong tree [] place.dropLast with
  | .ok tree => { tree with files := tree.files.insert (key place) content }
  | .error _ => tree

end FileTree

end TopoPlan
