import EnvInject.Command.Call
import EnvInject.Command.Shell.Builtin

/-!
# Programs that scripts start

* `Session.launch`, `program` : start a program and go on after it;
* `Session.replace` : starts a program in place of the script;
* `Session.locate` : tells what a name means as a command;
* `Session.included` : the text of another script that becomes a part of this one.
-/

namespace EnvInject.Shell

namespace Session

def searchPath (s : Session) : String := (s.get? "PATH").getD defaultPath

/-- The paths at which a program is tried: the first of them is that of a file that may be executed.
-/
def programPaths (s : Session) (searchPath name : String) : List String :=
  let paths := EnvInject.programPaths searchPath name
  if name.contains '/' then paths else paths.dropWhile (!s.tree.isExecutable ·)

def refuse (s : Session) (name : String) (e : SystemError) : Session :=
  match e with
  | .notFound | .notADirectory => s.complain 127 (name ++ ": not found")
  | .nameTooLong | .tooManyLevels => s.complain 127 s!"{name}: {e.reason}"
  | _ => s.complain 126 s!"{name}: {e.reason}"

def launch (start : Starter) (s : Session) (settings : List (String × String)) (name : String)
    (args : List String) : Except SystemError Outcome :=
  let env := settings.foldl (fun env p => env.insert p.1 p.2) s.exported
  let searchPath := (settings.lookup "PATH").getD s.searchPath
  let call : Call := { tree := s.tree, path := name, name, args, env, input := s.input }
  start.orScript.first call .notFound (s.programPaths searchPath name)

/-- What is said of a program that a signal ended. -/
def notice (signal : Nat) : String :=
  match signal with
  | 1 => "Hangup\n"
  | 3 => "Quit\n"
  | 4 => "Illegal instruction\n"
  | 5 => "Trace/breakpoint trap\n"
  | 6 => "Aborted\n"
  | 7 => "Bus error\n"
  | 8 => "Floating point exception\n"
  | 9 => "Killed\n"
  | 10 => "User defined signal 1\n"
  | 11 => "Segmentation fault\n"
  | 12 => "User defined signal 2\n"
  | 14 => "Alarm clock\n"
  | 15 => "Terminated\n"
  | _ => ""

def program (start : Starter) (s : Session) (settings : List (String × String)) (name : String)
    (args : List String) : Session :=
  match s.launch start settings name args with
  | .ok o =>
    match o.ending with
    | .killed signal => s.take { o with errors := o.errors ++ Utf8.encode (notice signal) }
    | _ => s.take o
  | .error e => s.refuse name e

/-- Runs a program in place of the script. -/
def replace (start : Starter) (s : Session) (settings : List (String × String)) (name : String)
    (args : List String) : Session :=
  match s.launch start settings name args with
  | .ok o => { s.take o with leaving := some (.script o.ending) }
  | .error e =>
    let s := s.refuse ("exec: " ++ name) e
    s.endWith s.status

def locate (s : Session) (name : String) : Session :=
  if builtinNames.contains name || (s.functions.lookup name).isSome then
    s.takeOwn (.writes (name ++ "\n"))
  else match (s.programPaths s.searchPath name).find? s.tree.isExecutable with
    | some path => s.takeOwn (.writes (path ++ "\n"))
    | none => { s with status := 127 }

/-- The text of a script that is to be run as a part of this one; the error is a complaint. -/
def included (s : Session) (name : String) : Except String String :=
  match (EnvInject.programPaths s.searchPath name).find? s.tree.isFile with
  | none =>
    .error (if name.contains '/' then cannotOpen name .notFound else name ++ ": not found")
  | some path =>
    match s.tree.read path with
    | .ok content => .ok (Utf8.decodeLossy content)
    | .error e => .error (cannotOpen name e)

end Session

end EnvInject.Shell
