import EnvInject.Text.Split

/-!
# Paths

A path is a text; its components are the names between its slashes. Joining works on the text: an
absolute path replaces what stands before it.

* `Path.join` : a path inside another one;
* `Path.components` : the root, `.` at the start, `..`, and names;
* `Path.extension?`, `withExtension` : what follows the last dot of the file name.
-/

namespace EnvInject.Path

def isAbsolute (path : String) : Bool := path.toList.head? == some '/'

/-- The path `part` inside `base`; an absolute `part` stands for itself. -/
def join (base part : String) : String :=
  if isAbsolute part then part
  else if base.isEmpty || base.toList.getLast? == some '/' then base ++ part
  else base ++ "/" ++ part

inductive Component where
  | root
  /-- A dot at the start; elsewhere it says nothing. -/
  | here
  | up
  | name (text : String)
  deriving DecidableEq, Repr

/-- The component that a part between slashes stands for, if it says something. -/
def component? (part : String) : Option Component :=
  if part = "" || part = "." then none else if part = ".." then some .up else some (.name part)

def components (path : String) : List Component :=
  let parts := Text.split '/' path
  let first : List Component :=
    if isAbsolute path then [.root] else if parts.head? = some "." then [.here] else []
  first ++ parts.filterMap component?

/-- The name that a path ends in, if it ends in a name. -/
def fileName? (path : String) : Option String :=
  match (components path).getLast? with
  | some (.name text) => some text
  | _ => none

/-- Cuts a file name before its last dot, unless that is its first character. -/
def splitExtension (name : List Char) : List Char × Option (List Char) :=
  let after := name.reverse.takeWhile (· != '.')
  let before := (name.reverse.dropWhile (· != '.')).drop 1
  if before.isEmpty then (name, none) else (before.reverse, some after.reverse)

def extension? (path : String) : Option String :=
  (fileName? path).bind fun name => (splitExtension name.toList).2.map String.ofList

/-- A path with the extension of its file name replaced. The path must end in its file name. A file
name `.` with an extension becomes `..`, to which none is added. -/
def withExtension (path extension : String) : String :=
  match fileName? path with
  | none => path
  | some name =>
    let directory := path.toList.take (path.toList.length - name.toList.length)
    let (stem, old) := splitExtension name.toList
    let kept := String.ofList (directory ++ stem) ++ "."
    if old.isSome && stem == ['.'] then kept else kept ++ extension

end EnvInject.Path
