/-
ScriptLexer/Source/FileTree.lean

Files and directories about a working directory: making them, and reading a file by
its path.

A tree says what stands at a location: nothing, a directory, or a file with its
bytes.  A path is walked one component at a time.  At each step the location
reached so far has to be a directory; an empty component and `.` stay there, `..`
goes up, and a name goes down.  Making a directory or a file walks the same way, and
makes the directories that are missing, also those that the path leaves again by
`..`.

What stands above the working directory is known only as far as it has been made:
one can always go up, but going down finds no more than that.
-/
import ScriptLexer.Source.Failure

namespace ScriptLexer

/-! ### Paths -/

/-- The components of a path: what stands between its slashes, empty or not. -/
def pathComponents (path : String) : List String :=
  (path.toList.splitOn '/').map String.ofList

/-- Whether a path begins at the top and not at the working directory. -/
def isAbsolute (path : String) : Bool :=
  path.toList.head? = some '/'

/-- The number of bytes of a path with which it is too long. -/
def pathLimit : Nat := 4096

/-- The number of bytes that a name may have. -/
def nameLimit : Nat := 255

/-- Refuses a path that leads nowhere in any tree. -/
def admitPath (path : String) : Except ReadFailure Unit :=
  if path.toList.contains '\x00' then .error .nulInPath
  else if path.utf8ByteSize ≥ pathLimit then .error .nameTooLong
  else if path = "" then .error .notFound
  else .ok ()

/-! ### Locations -/

/-- A directory that locations are counted from. -/
inductive Origin where
  /-- The directory that holds everything. -/
  | top
  /-- The working directory, or the one so many levels above it. -/
  | working (climbed : Nat)
  deriving DecidableEq

/-- The directory that an origin is in. -/
def Origin.up : Origin → Origin
  | top => top
  | working climbed => working (climbed + 1)

/-- A place for a file or directory. -/
structure Location where
  /-- Where its names are counted from. -/
  origin : Origin
  /-- The names from there down, the deepest first. -/
  names : List String
  deriving DecidableEq

namespace Location

/-- Where a path begins. -/
def start (path : String) : Location :=
  ⟨if isAbsolute path then .top else .working 0, []⟩

/-- The directory that a location is in. -/
def up (location : Location) : Location :=
  match location.names with
  | _ :: outer => ⟨location.origin, outer⟩
  | [] => ⟨location.origin.up, []⟩

/-- Where a component leads from a directory. -/
def move (location : Location) (component : String) : Location :=
  if component = "" ∨ component = "." then location
  else if component = ".." then location.up
  else ⟨location.origin, component :: location.names⟩

end Location

/-! ### Trees -/

/-- What stands at a location. -/
inductive Node where
  | directory
  | file (bytes : ByteArray)

/-- What stands at each location. -/
structure FileTree where
  /-- What stands at a location, if anything does. -/
  lookup : Location → Option Node

namespace FileTree

/-- A working directory with nothing in it. -/
def empty : FileTree where
  lookup := fun location => if location.names = [] then some .directory else none

/-- Puts a node at a location. -/
def put (tree : FileTree) (location : Location) (node : Node) : FileTree where
  lookup := fun other => if other = location then some node else tree.lookup other

/-- Makes a directory where nothing stands. -/
def fill (tree : FileTree) (location : Location) : FileTree :=
  match tree.lookup location with
  | some _ => tree
  | none => tree.put location .directory

/-! ### Walking -/

/-- Takes one component of a path. -/
def step (tree : FileTree) (location : Location) (component : String) :
    Except ReadFailure Location :=
  match tree.lookup location with
  | some (.file _) => .error .notADirectory
  | none => .error .notFound
  | some .directory =>
    if component.utf8ByteSize > nameLimit then .error .nameTooLong
    else
      match tree.lookup (location.move component) with
      | some _ => .ok (location.move component)
      | none => .error .notFound

/-- The location that a path leads to. -/
def walk (tree : FileTree) (path : String) : Except ReadFailure Location :=
  (pathComponents path).foldlM tree.step (.start path)

/-! ### Reading -/

/-- The bytes of the file that a path leads to. -/
def read (tree : FileTree) (path : String) : Except ReadFailure ByteArray := do
  admitPath path
  match tree.lookup (← tree.walk path) with
  | some (.file bytes) => return bytes
  | some .directory => throw .isADirectory
  | none => throw .notFound

/-! ### Making -/

/-- Takes one component of a path, and makes a directory there if nothing stands
there. -/
def stepMaking (tree : FileTree) (location : Location) (component : String) :
    Except ReadFailure (FileTree × Location) := do
  let filled := tree.fill (location.move component)
  return (filled, ← filled.step location component)

/-- Takes components one after the other, and makes what directories are missing. -/
def walkMaking (tree : FileTree) (location : Location) (components : List String) :
    Except ReadFailure (FileTree × Location) :=
  components.foldlM (fun (tree, location) => tree.stepMaking location) (tree, location)

/-- Makes the directory that a path leads to. -/
def addDirectory (tree : FileTree) (path : String) : Except ReadFailure FileTree := do
  admitPath path
  return (← tree.walkMaking (.start path) (pathComponents path)).1

/-- Writes the file that a path leads to, in place of what it held before. -/
def addFile (tree : FileTree) (path : String) (bytes : ByteArray) :
    Except ReadFailure FileTree := do
  admitPath path
  let components := pathComponents path
  let (made, directory) ← tree.walkMaking (.start path) components.dropLast
  let name := components.getLast?.getD ""
  if name.utf8ByteSize > nameLimit then throw .nameTooLong
  match made.lookup (directory.move name) with
  | some .directory => throw .isADirectory
  | _ => return made.put (directory.move name) (.file bytes)

/-- The tree in which directories, then files, have been made in their order.  What
cannot be made is left out. -/
def arrange (directories : List String) (files : List (String × ByteArray)) : FileTree :=
  let made := directories.foldl (fun tree path => (tree.addDirectory path).toOption.getD tree) empty
  files.foldl (fun tree (path, bytes) => (tree.addFile path bytes).toOption.getD tree) made

end FileTree

end ScriptLexer
