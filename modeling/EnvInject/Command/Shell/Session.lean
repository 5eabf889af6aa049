import EnvInject.Command.Outcome
import EnvInject.Command.Shell.Field
import EnvInject.Command.Shell.Options
import EnvInject.Command.Shell.Stream
import EnvInject.Command.Shell.Token
import EnvInject.Environment

/-!
# Shell sessions

The state of a running script: its arguments, its variables, what it has written so far and what is
left of its input.

* `Leaving` : what a command leaves before it is done;
* `Session` : the state;
* `Session.initial` : the state at the start of a script;
* `Session.value?`, `set`, `publish`, `unset` : parameters and variables;
* `Session.take`, `complain`, `fail` : what commands do to the state;
* `Session.afterSubshell`, `afterRound`, `afterFunction` : the state after parts of a script.
-/

namespace EnvInject.Shell

/-- Where commands are looked for when no variable tells. -/
def defaultPath : String :=
  "/usr/local/sbin:/usr/local/bin:/usr/sbin:/usr/bin:/sbin:/bin"

inductive Leaving where
  | script (ending : Ending)
  | function
  /-- So many loops, of which the last may begin another round. -/
  | loops (count : Nat) (again : Bool)
  deriving DecidableEq, Repr

/-- The state of a running script. -/
structure Session where
  tree : FileTree
  /-- What the script is called. -/
  name : String
  args : List String
  /-- The variables that the commands it starts see, and those that they do not see. -/
  exported : Environment
  own : Environment := .empty
  /-- The line of the command that runs. -/
  line : Nat := 1
  /-- The exit code of the last command. -/
  status : Nat := 0
  /-- The exit code of the last script whose output was taken, since it was last asked for. -/
  substituted : Option Nat := none
  /-- What was written with the numbers of the streams, the latest first. -/
  writes : List (Nat × Bytes) := []
  /-- What is left of the input. -/
  input : Bytes := []
  options : Options := {}
  functions : List (String × Script) := []
  /-- In a function, the variables that are its own, with the values that they get back. -/
  hidden : Option (List (String × Option String)) := none
  /-- The number of the loops that a command runs in. -/
  loops : Nat := 0
  /-- Where the streams of the commands that follow go. -/
  standing : Option Streams := none
  /-- What is run at the end. -/
  atExit : Option String := none
  /-- What the last command left, if it left anything. -/
  leaving : Option Leaving := none

namespace Session

/-! ## Variables -/

/-- What stands for the number of the shell's own process. -/
def ownNumber : String := "4242"

def get? (s : Session) (name : String) : Option String :=
  (s.own.get? name).or (s.exported.get? name)

def set (s : Session) (name value : String) : Session :=
  if s.exported.contains name then { s with exported := s.exported.insert name value }
  else { s with own := s.own.insert name value }

/-- Lets the commands that are started see a variable. -/
def publish (s : Session) (name : String) : Session :=
  match s.get? name with
  | some value =>
    { s with exported := s.exported.insert name value, own := s.own.erase name }
  | none => s

def unset (s : Session) (name : String) : Session :=
  { s with exported := s.exported.erase name, own := s.own.erase name }

def restore (s : Session) (saved : String × Option String) : Session :=
  match saved.2 with
  | some value => s.set saved.1 value
  | none => s.unset saved.1

def ownVariables : Environment :=
  .ofPairs [("PATH", defaultPath), ("IFS", " \t\n"), ("OPTIND", "1")]

/-- The state at the start of a script: variables whose names are none are left out, and the
working directory is told. -/
def initial (tree : FileTree) (name : String) (args : List String) (env : Environment) : Session :=
  let named := env.pairs.filter fun p => isName p.1.toList && p.1 != "IFS"
  let exported := (Environment.ofPairs named).insert "PWD" (Place.path tree.workingDirectory)
  { tree, name, args, exported
    own := .ofPairs (ownVariables.pairs.filter fun p => !exported.contains p.1) }

def value? (s : Session) (name : String) : Option String :=
  match name with
  | "@" | "*" => if s.args.isEmpty then none else some (" ".intercalate s.args)
  | "#" => some (toString s.args.length)
  | "?" => some (toString s.status)
  | "$" => some ownNumber
  | "-" => some ((if s.options.exitOnError then "e" else "") ++
      (if s.options.isInput then "s" else "") ++ (if s.options.exitOnUnset then "u" else ""))
  | "0" => some s.name
  | _ =>
    match name.toNat? with
    | some n => s.args[n - 1]?
    | none => s.get? name

def separators (s : Session) : Separators := ⟨((s.get? "IFS").getD " \t\n").toList⟩

/-! ## Outcomes -/

def cannotOpen (path : String) (e : SystemError) : String :=
  let reason := if e.isAbsence then "No such file" else e.reason
  s!"cannot open {path}: {reason}"

def take (s : Session) (o : Outcome) : Session :=
  { s with
    status := o.ending.exitCode
    writes := (2, o.errors) :: (1, o.output) :: s.writes
    input := o.unread }

/-- Takes the outcome of a command that leaves the input alone. -/
def takeOwn (s : Session) (o : Outcome) : Session := s.take (o.leaving s.input)

def complain (s : Session) (code : Nat) (text : String) : Session :=
  s.takeOwn (.fails code s!"{s.name}: {s.line}: {text}")

def endWith (s : Session) (code : Nat) : Session :=
  { s with leaving := some (.script (.exited code)) }

def fail (s : Session) (code : Nat) (text : String) : Session :=
  (s.complain code text).endWith code

/-- How the script ended, or would end here. -/
def ending (s : Session) : Ending :=
  match s.leaving with
  | some (.script ending) => ending
  | _ => .exited s.status

def written (s : Session) (stream : Nat) : Bytes :=
  s.writes.reverse.flatMap fun w => if w.1 = stream then w.2 else []

def outcome (s : Session) : Outcome :=
  { ending := s.ending, output := s.written 1, errors := s.written 2, unread := s.input }

/-- Goes on after `inner`, in which parts of the script ran for themselves: files and streams are as
it left them, and variables as they were. -/
def afterSubshell (s inner : Session) : Session :=
  { s with
    tree := { inner.tree with workingDirectory := s.tree.workingDirectory }
    writes := inner.writes
    input := inner.input
    status := inner.ending.exitCode
    leaving := match inner.ending with
      | .killed signal => some (.script (.killed signal))
      | _ => none }

/-- Goes on after the round of a loop, and tells whether there may be another. -/
def afterRound (s : Session) : Session × Bool :=
  match s.leaving with
  | none => (s, true)
  | some (.loops (more + 2) again) =>
    ({ s with leaving := some (.loops (more + 1) again) }, false)
  | some (.loops _ again) => ({ s with leaving := none }, again)
  | some _ => (s, false)

/-- Goes on after `inner`, in which a function ran. -/
def afterFunction (s inner : Session) : Session :=
  let inner := (inner.hidden.getD []).foldl restore inner
  { inner with
    args := s.args
    hidden := s.hidden
    loops := s.loops
    leaving := inner.leaving.filter fun l => match l with
      | .script _ => true
      | _ => false }

end Session

end EnvInject.Shell
