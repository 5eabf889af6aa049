import EnvInject.Command.Interpreter
import EnvInject.Command.Program
import EnvInject.Command.Shell.Run

/-!
# Starting programs

A file that may be executed is a program of the host, or a script whose first line names the program
that runs it.

* `imageOf`, `programOf` : what is at the path of a call, and the program that it starts;
* `start` : starts a program and gives its outcome.
-/

namespace EnvInject

def startShell (start : Starter) (call : Call) : Outcome :=
  let fails (complaint : String) : Outcome :=
    (Outcome.fails 2 s!"{call.name}: 0: {complaint}").leaving call.input
  let run (options : Shell.Options) (name : String) (args : List String) (input : Bytes)
      (script : String) : Outcome :=
    let session := Shell.Session.initial call.tree name args call.env
    Shell.runText start { session with options, input } script
  match Shell.Options.read true {} call.args with
  | .error complaint => fails complaint
  | .ok (options, _, args) =>
    match options.isArgument, options.isInput, args with
    | true, _, script :: args =>
      run options (args.head?.getD call.name) (args.drop 1) call.input script
    | true, _, [] => fails "-c requires an argument"
    | false, false, path :: args =>
      match call.tree.read path with
      | .ok content => run options path args call.input (Utf8.decodeLossy content)
      | .error .isADirectory => { unread := call.input }
      | .error e => fails (Shell.Session.cannotOpen path e)
    | false, _, args =>
      run { options with isInput := true } call.name args [] (Utf8.decodeLossy call.input)

/-- The variables that the options of `env` leave, and what follows the options; the error is an
option that is not known. -/
def envOptions (env : Environment) : List String → Except String (Environment × List String)
  | "--" :: rest => .ok (env, rest)
  | "-u" :: name :: rest => envOptions (env.erase name) rest
  | arg :: rest =>
    if arg == "-i" || arg == "-" || arg == "--ignore-environment" then envOptions .empty rest
    else if arg.startsWith "-" then .error arg
    else .ok (env, arg :: rest)
  | [] => .ok (env, [])

/-- The variables that settings in front of a command make up, and the command. -/
def envSettings (env : Environment) : List String → Environment × List String
  | [] => (env, [])
  | arg :: rest =>
    match Text.cutFirst? '=' arg.toList with
    | some (name, value) => envSettings (env.insert (String.ofList name) (String.ofList value)) rest
    | none => (env, arg :: rest)

def envUnknown (caller option : String) : Outcome :=
  let complaint := if option.startsWith "--" then s!"unrecognized option '{option}'"
    else s!"invalid option -- '{(option.drop 1).take 1}'"
  .fails 125 s!"{caller}: {complaint}\nTry '{caller} --help' for more information."

def envRefusal (caller name : String) (e : SystemError) : Outcome :=
  let complaint := s!"{caller}: '{name}': {e.reason}"
  match e with
  | .notFound =>
    .fails 127 (if name.contains ' ' then
      s!"{complaint}\n{caller}: use -[v]S to pass options in shebang lines" else complaint)
  | _ => .fails 126 complaint

def startEnv (start : Starter) (call : Call) : Outcome :=
  match envOptions call.env call.args with
  | .error option => (envUnknown call.name option).leaving call.input
  | .ok (env, args) =>
    match envSettings env args with
    | (env, []) => (Program.listVariables env).leaving call.input
    | (env, name :: args) =>
      match start.orScript.search { call with path := name, name, args, env } with
      | .ok o => o
      | .error e => (envRefusal call.name name e).leaving call.input

/-- What is found at the path of a call. -/
inductive Image where
  | program (program : Program)
  /-- A script with the path of the program that runs it, and what that program takes first. -/
  | script (path : String) (argument : Option String)

def imageOf (call : Call) : Except SystemError Image := do
  let (place, node) ← call.tree.lookup call.path
  match node with
  | .directory => throw .permissionDenied
  | .file content permissions =>
    if permissions.executable then
      match Program.ofFile? place content, interpreter? content with
      | some program, _ => pure (.program program)
      | none, some (path, argument) => pure (.script path argument)
      | none, none => throw .unknownFormat
    else throw .permissionDenied

/-- The program that a call starts, with what it is called by then. Scripts run each other inside at
most `levels` others. -/
def programOf : (levels : Nat) → Call → Except SystemError (Program × Call)
  | 0, call => do
    match ← imageOf call with
    | .program program => pure (program, call)
    | .script .. => throw .tooManyLevels
  | levels + 1, call => do
    match ← imageOf call with
    | .program program => pure (program, call)
    | .script path argument =>
      programOf levels
        { call with path, name := path, args := argument.toList ++ call.path :: call.args }

/-- How many scripts may run each other. -/
def maxScriptLevels : Nat := 5

/-- How many programs may have started each other. -/
def maxNesting : Nat := 64

/-- Starts a program, inside at most `depth` others. -/
def startWithin : (depth : Nat) → Starter
  | 0, _ => .error .permissionDenied
  | depth + 1, call => do
    let (program, call) ← programOf maxScriptLevels call
    match program with
    | .shell => pure (startShell (startWithin depth) call)
    | .environment => pure (startEnv (startWithin depth) call)
    | program => pure (program.run call)

def start : Starter := startWithin maxNesting

end EnvInject
