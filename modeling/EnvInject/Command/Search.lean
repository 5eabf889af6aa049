import EnvInject.Host

/-!
# Finding commands

A command that names a directory is a path. Any other is looked for in the directories of a search
path, in order.

* `Command.candidates` : the places where a command may be;
* `Command.find` : the first of them that is a file one may execute.
-/

namespace EnvInject.Command

inductive SearchError where
  | noSearchPath
  | notFound
  deriving DecidableEq, Repr

def SearchError.message : SearchError → String
  | noSearchPath => "no path to search and provided name is not an absolute path"
  | notFound => "cannot find binary path"

/-- Whether a command names a directory. -/
def isPath (command : String) : Bool := 1 < (Path.components command).length

def componentText : Path.Component → String
  | .root => "/"
  | .here => "."
  | .up => ".."
  | .name text => text

/-- A directory of a search path, with the home directory in place of a leading `~`. -/
def expandHome (home directory : String) : String :=
  match Path.components directory with
  | .name "~" :: rest => (rest.map componentText).foldl Path.join home
  | _ => directory

def directories (home searchPath : String) : List String :=
  (Text.split ':' searchPath).map (expandHome home)

def candidates (host : Host) (command : String) : Except SearchError (List String) :=
  if isPath command then .ok [Path.join host.workingDirectory command]
  else match host.get? "PATH" with
    | none => .error .noSearchPath
    | some searchPath =>
      .ok ((directories host.home searchPath).map fun directory => Path.join directory command)

def find (host : Host) (command : String) : Except SearchError String := do
  match (← candidates host command).find? host.tree.isExecutable with
  | some path => pure path
  | none => throw .notFound

end EnvInject.Command
