import EnvInject.File.Nodes
import EnvInject.File.Path

/-!
# File trees

The directories and files that a run can see. Whatever stands in a tree stands in a directory of the
tree. A path is walked step by step: every step but the last must lead to a directory.

* `FileTree.lookup` : what a path leads to, or the error of the step that fails;
* `read`, `isFile`, `isDirectory`, `isExecutable` : what a run asks of the tree;
* `write`, `makeDirectory`, `remove` : changes; one that cannot be made changes nothing.
-/

namespace EnvInject

/-- Why the operating system refuses. -/
inductive SystemError where
  | notFound
  | notADirectory
  | isADirectory
  | nameTooLong
  | unknownFormat
  | permissionDenied
  /-- Scripts name each other as the programs that run them. -/
  | tooManyLevels
  /-- A path holds a NUL character. -/
  | nulInPath
  /-- A command, argument or variable holds a NUL character. -/
  | nulInData
  deriving DecidableEq, Repr

namespace SystemError

/-- The number that the system gives a refusal; a NUL character is found before it is asked. -/
def number? : SystemError → Option Nat
  | notFound => some 2
  | unknownFormat => some 8
  | permissionDenied => some 13
  | notADirectory => some 20
  | isADirectory => some 21
  | nameTooLong => some 36
  | tooManyLevels => some 40
  | nulInPath | nulInData => none

def reason : SystemError → String
  | notFound => "No such file or directory"
  | notADirectory => "Not a directory"
  | isADirectory => "Is a directory"
  | nameTooLong => "File name too long"
  | unknownFormat => "Exec format error"
  | permissionDenied => "Permission denied"
  | tooManyLevels => "Too many levels of symbolic links"
  | nulInPath => "file name contained an unexpected NUL byte"
  | nulInData => "nul byte found in provided data"

def message (e : SystemError) : String :=
  match e.number? with
  | some number => s!"{e.reason} (os error {number})"
  | none => e.reason

/-- Whether a refusal says that nothing is there. -/
def isAbsence : SystemError → Bool
  | notFound | notADirectory => true
  | _ => false

end SystemError

/-- Directories and files, and the working directory. What stands in a tree stands in directories, up
to the root. Links are left out, and so is the permission to search a directory. -/
structure FileTree where
  nodes : Nodes := []
  workingDirectory : Place := []
  rooted : nodes.Rooted := by exact Nodes.rooted_nil

namespace FileTree

def maxNameBytes : Nat := 255

/-- The number of bytes that a path must stay below. -/
def pathBytesBound : Nat := 4096

def node? (tree : FileTree) (place : Place) : Option FileNode := tree.nodes.at? place

def walk (tree : FileTree) : Place → List String → Except SystemError (Place × FileNode)
  | place, [] =>
    match tree.node? place with
    | some node => .ok (place, node)
    | none => .error .notFound
  | place, part :: rest =>
    match tree.node? place with
    | none => .error .notFound
    | some (.file ..) => .error .notADirectory
    | some .directory =>
      if part = "" || part = "." then walk tree place rest
      else if part = ".." then walk tree place.dropLast rest
      else if maxNameBytes < part.utf8ByteSize then .error .nameTooLong
      else walk tree (place ++ [part]) rest

/-- Where the walk along a path starts. -/
def origin (tree : FileTree) (path : String) : Place :=
  if Path.isAbsolute path then [] else tree.workingDirectory

def lookup (tree : FileTree) (path : String) : Except SystemError (Place × FileNode) :=
  if path.toList.contains (Char.ofNat 0) then .error .nulInPath
  else if path.isEmpty then .error .notFound
  else if pathBytesBound ≤ path.utf8ByteSize then .error .nameTooLong
  else tree.walk (tree.origin path) (Text.split '/' path)

def isFile (tree : FileTree) (path : String) : Bool :=
  match tree.lookup path with
  | .ok (_, .file ..) => true
  | _ => false

def isDirectory (tree : FileTree) (path : String) : Bool :=
  match tree.lookup path with
  | .ok (_, .directory) => true
  | _ => false

def pathExists (tree : FileTree) (path : String) : Bool := (tree.lookup path).toBool

/-- Whether a path leads to a file that may be executed. -/
def isExecutable (tree : FileTree) (path : String) : Bool :=
  match tree.lookup path with
  | .ok (_, .file _ permissions) => permissions.executable
  | _ => false

def read (tree : FileTree) (path : String) : Except SystemError Bytes := do
  match (← tree.lookup path).2 with
  | .file content permissions =>
    if permissions.readable then pure content else throw .permissionDenied
  | .directory => throw .isADirectory

/-! ## Changes -/

/-- The place that a path names, whether or not something stands there. -/
def placeOf (tree : FileTree) (path : String) : Place :=
  (Text.split '/' path).foldl (fun place part =>
      if part = "" || part = "." then place
      else if part = ".." then place.dropLast
      else place ++ [part])
    (tree.origin path)

/-- The places above a place, from the top, the root left out, and the place itself. -/
def placesTo : Place → List Place
  | [] => []
  | name :: rest => [name] :: (placesTo rest).map (name :: ·)

/-- Puts `node` at a place whose directory is there, unless a directory is in its place. -/
def set (tree : FileTree) (place : Place) (node : FileNode) : FileTree :=
  if h : tree.node? place.dropLast = some .directory ∧ tree.node? place ≠ some .directory then
    { tree with
      nodes := tree.nodes.put place node
      rooted := tree.rooted.put h.1 h.2 node }
  else tree

/-- Makes the directories at the places that are free; `none` if a file is in the way. -/
def makeAll (tree : FileTree) : List Place → Option FileTree
  | [] => some tree
  | place :: rest =>
    match tree.node? place with
    | some .directory => makeAll tree rest
    | some (.file ..) => none
    | none => makeAll (tree.set place .directory) rest

/-- Makes a directory and those above it. -/
def makeDirectory (tree : FileTree) (path : String) : FileTree :=
  (tree.makeAll (placesTo (tree.placeOf path))).getD tree

/-- Writes a file, after making the directories above it. Unless permissions are given, an existing
file keeps its own. -/
def write (tree : FileTree) (path : String) (content : Bytes)
    (permissions : Option Permissions := none) : FileTree :=
  let place := tree.placeOf path
  match tree.makeAll (placesTo place.dropLast) with
  | none => tree
  | some made =>
    match made.node? place with
    | some .directory => tree
    | some (.file _ was) => made.set place (.file content (permissions.getD was))
    | none => made.set place (.file content (permissions.getD {}))

/-- Removes what stands at a path, and everything below it. -/
def remove (tree : FileTree) (path : String) : FileTree :=
  { tree with
    nodes := tree.nodes.cut (tree.placeOf path)
    rooted := tree.rooted.cut (tree.placeOf path) }

end FileTree

end EnvInject
