import EnvInject.Command.Search
import EnvInject.Command.Start
import EnvInject.Execution

/-!
# Launching the command

The command is looked for before its own variables are in force, so that it is found even if they
hold no search path.

* `Command.resolve` : the file that a command stands for;
* `Command.outcome` : what a command does when it is launched;
* `Host.launcher` : launches commands on a host.
-/

namespace EnvInject

namespace Command

/-- The file that a command stands for. A command that names a path where something is that cannot
be executed is not taken for missing. -/
def resolve (host : Host) (command : String) : Except LaunchError String :=
  match find host command with
  | .ok path => .ok path
  | .error _ =>
    if command.contains '/' && host.tree.pathExists command then .error (.permissionDenied command)
    else .error (.notFound command)

def refusal (command : String) : SystemError → LaunchError
  | .notFound => .notFound command
  | .permissionDenied => .permissionDenied command
  | e => .refused command e.message

def hasNul (s : String) : Bool := s.contains (Char.ofNat 0)

/-- The variables as a program gets them, by ascending name. -/
def sorted (env : Environment) : Environment :=
  .ofPairs (env.pairs.mergeSort fun a b => a.1 ≤ b.1)

/-- Starts the program at a path that a search gave. One without a directory is looked for again,
among the program's own variables. -/
def startAt (start : Starter) (tree : FileTree) (path : String) (args : List String)
    (env : Environment) : Except SystemError Outcome :=
  if (args ++ env.rendered).any hasNul then .error .nulInData
  else start.search { tree, path, name := path, args, env }

/-- What a command does when it is launched. Only a program that is looked for again may be a file
in no known format. -/
def outcome (host : Host) (command : String) (args : List String) (env : Environment) :
    Except LaunchError Outcome := do
  let path ← resolve host command
  let start := if path.contains '/' then start else start.orScript
  (startAt start host.tree path args (sorted env)).mapError (refusal command)

end Command

def Host.launcher (host : Host) : Launcher := fun command args env => do
  pure (← Command.outcome host command args env).ending.exitCode

end EnvInject
