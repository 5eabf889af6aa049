import EnvInject.Command.Outcome
import EnvInject.Environment
import EnvInject.File.Tree

/-!
# Calls of programs

A program is called by a path, or by a name that is tried in the directories of a search path, in
order, until it can be started in one of them.

* `Call`, `Starter` : a program with its arguments, and what starts one;
* `programPaths` : the paths at which a program may be;
* `Starter.first` : starts the first of several paths that can be started;
* `Starter.orScript` : takes a file in no known format for a script.
-/

namespace EnvInject

/-- A program to start, among the files and with the input that it finds. -/
structure Call where
  tree : FileTree
  path : String
  /-- What the program is called by. -/
  name : String
  args : List String
  env : Environment
  input : Bytes := []

/-- Starts a program and waits until it ends. -/
abbrev Starter := Call → Except SystemError Outcome

/-- The paths at which a program may be, in order. A name with a directory is a path already, and an
empty directory is the working directory. -/
def programPaths (searchPath name : String) : List String :=
  if name.contains '/' then [name]
  else (Text.split ':' searchPath).map fun directory =>
    if directory.isEmpty then name else directory ++ "/" ++ name

namespace Starter

/-- Starts the first of several paths that can be started. Paths where nothing is, or that may not
be executed, are passed over; a refusal for want of permission is remembered, and any other ends the
search. -/
def first (start : Starter) (call : Call) (refusal : SystemError) :
    List String → Except SystemError Outcome
  | [] => .error refusal
  | path :: rest =>
    match start { call with path } with
    | .ok o => .ok o
    | .error .permissionDenied => first start call .permissionDenied rest
    | .error e =>
      if e.isAbsence then
        first start call (if refusal = .permissionDenied then refusal else e) rest
      else .error e

/-- Where a program is looked for when no variable tells. -/
def bareSearchPath : String := "/bin:/usr/bin"

/-- Starts a program that is looked for among its own variables. -/
def search (start : Starter) (call : Call) : Except SystemError Outcome :=
  if call.path.isEmpty then .error .notFound
  else start.first call .notFound
    (programPaths ((call.env.get? "PATH").getD bareSearchPath) call.path)

def shellPath : String := "/bin/sh"

/-- Takes a file in no known format for a script of the shell. -/
def orScript (start : Starter) : Starter := fun call =>
  match start call with
  | .error .unknownFormat =>
    start { call with path := shellPath, name := shellPath, args := call.path :: call.args }
  | result => result

end Starter

end EnvInject
