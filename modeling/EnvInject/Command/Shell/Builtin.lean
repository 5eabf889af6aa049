import EnvInject.Command.Condition
import EnvInject.Command.Format
import EnvInject.Command.Shell.Session

/-!
# Commands of the shell itself

* `Session.builtin?` : runs a command of the shell itself, if it is one that starts no other;
* `isSpecial` : whether settings in front of a command last.
-/

namespace EnvInject.Shell

/-- The commands of the shell in front of which settings last, and after whose faults the script
ends. -/
def isSpecial (name : String) : Bool :=
  [":", ".", "break", "continue", "eval", "exec", "exit", "export", "return", "set", "shift",
    "trap", "unset"].contains name

def builtinNames : List String :=
  [":", ".", "[", "break", "cd", "command", "continue", "echo", "eval", "exec", "exit", "export",
    "false", "kill", "local", "printf", "pwd", "read", "return", "set", "shift", "test", "trap",
    "true", "unset", "wait"]

namespace Session

/-! ## Ends -/

def exit (s : Session) : List String → Session
  | [] => s.endWith s.status
  | code :: _ =>
    match code.toNat? with
    | some n => s.endWith (n % 256)
    | none => s.fail 2 s!"exit: Illegal number: {code}"

def leaveFunction (s : Session) : List String → Session
  | [] => { s with leaving := some .function }
  | code :: _ =>
    match code.toNat? with
    | some n => { s with status := n, leaving := some .function }
    | none => s.fail 2 s!"return: Illegal number: {code}"

/-- Leaves loops; with `again` the last of them begins another round. -/
def leaveLoops (s : Session) (name : String) (again : Bool) (args : List String) : Session :=
  let s := { s with status := 0 }
  let leave (count : Nat) : Session :=
    if s.loops = 0 then s else { s with leaving := some (.loops (min count s.loops) again) }
  match args with
  | [] => leave 1
  | count :: _ =>
    match count.toNat? with
    | some (n + 1) => leave (n + 1)
    | _ => s.fail 2 s!"{name}: Illegal number: {count}"

/-- Tells what is run at the end; what is run at signals is not kept. -/
def trap (s : Session) (args : List String) : Session :=
  let s := { s with status := 0 }
  match args with
  | action :: events =>
    if events.contains "EXIT" || events.contains "0" then
      { s with atExit := if action == "-" || action.isEmpty then none else some action }
    else s
  | [] => s

def signals : List (String × Nat) :=
  [("HUP", 1), ("INT", 2), ("QUIT", 3), ("ILL", 4), ("TRAP", 5), ("ABRT", 6), ("BUS", 7),
    ("FPE", 8), ("KILL", 9), ("USR1", 10), ("SEGV", 11), ("USR2", 12), ("PIPE", 13), ("ALRM", 14),
    ("TERM", 15)]

/-- The number of a signal; 0 is none and ends nothing. -/
def signal? (name : String) : Option Nat :=
  (signals.lookup name).or (name.toNat?.filter fun n => n = 0 || signals.any (·.2 == n))

/-- What a signal is asked for without its name or its target. -/
def killUsage : String :=
  "kill: Usage: kill [-s sigspec | -signum | -sigspec] [pid | job]... or\nkill -l [exitstatus]"

/-- Sends a signal, which may only be to the shell itself. -/
def kill (s : Session) (args : List String) : Session :=
  let sendTo (name : String) (targets : List String) : Session :=
    match signal? name, targets with
    | none, _ => s.complain 2 ("kill: Illegal option -" ++ name.take 1)
    | _, [] => s.complain 2 killUsage
    | some number, target :: _ =>
      if target.toNat?.isNone then s.complain 2 ("kill: Illegal number: " ++ target)
      else if target != ownNumber then s.complain 1 "kill: No such process\n"
      else if number = 0 then { s with status := 0 }
      else { s with leaving := some (.script (.killed number)) }
  match args with
  | "-s" :: name :: targets => sendTo name targets
  | option :: targets =>
    match option.toList with
    | '-' :: name => sendTo (String.ofList name) targets
    | _ => sendTo "TERM" args
  | [] => s.complain 2 killUsage

/-! ## Variables -/

/-- Exports variables, and sets those that a value is given for. -/
def exportAll (s : Session) (args : List String) : Session :=
  let add (s : Session) (arg : String) : Session :=
    match Text.cutFirst? '=' arg.toList with
    | some (name, value) =>
      (s.set (String.ofList name) (String.ofList value)).publish (String.ofList name)
    | none => s.publish arg
  { args.foldl add s with status := 0 }

def unsetAll (s : Session) (args : List String) : Session :=
  { (args.filter (!·.startsWith "-")).foldl unset s with status := 0 }

/-- Sets options, and the arguments if any are given or a sign says that there are none. -/
def setAll (s : Session) (args : List String) : Session :=
  match s.options.read false args with
  | .error complaint => s.fail 2 s!"set: {complaint}"
  | .ok (options, parted, args) =>
    { s with options, args := if parted || !args.isEmpty then args else s.args, status := 0 }

/-- Gives a function variables of its own. -/
def hide (s : Session) (args : List String) : Session :=
  let hideOne (s : Session) (arg : String) : Session :=
    let (name, value?) := match Text.cutFirst? '=' arg.toList with
      | some (name, value) => (String.ofList name, some (String.ofList value))
      | none => (arg, none)
    let s := { s with hidden := s.hidden.map ((name, s.get? name) :: ·) }
    match value? with
    | some value => s.set name value
    | none => s
  if s.hidden.isNone then s.fail 2 "local: not in a function"
  else { args.foldl hideOne s with status := 0 }

def shift (s : Session) (args : List String) : Session :=
  let count := ((args.head?.bind String.toNat?).getD 1)
  if s.args.length < count then s.fail 2 "shift: can't shift that many"
  else { s with args := s.args.drop count, status := 0 }

/-! ## Input -/

/-- Gives a line's fields to variables; the last one takes what is left. -/
def assignFields (s : Session) (line : List Char) : List String → Session
  | [] => s
  | [name] =>
    let isBlank := s.separators.isBlank
    s.set name (String.ofList ((line.dropWhile isBlank).reverse.dropWhile isBlank).reverse)
  | name :: names =>
    let line := line.dropWhile s.separators.isBlank
    let first := line.takeWhile (!s.separators.chars.contains ·)
    let rest := (line.drop first.length).dropWhile s.separators.isBlank
    let rest := match rest with
      | c :: more => if s.separators.chars.contains c then more else rest
      | [] => []
    (s.set name (String.ofList first)).assignFields rest names

def read (s : Session) (args : List String) : Session :=
  let line := s.input.takeWhile (· != 0x0A)
  let rest := s.input.drop line.length
  let s := { s with input := rest.drop 1, status := if rest.isEmpty then 1 else 0 }
  let chars := (Utf8.decodeLossy line).toList
  if args.head? == some "-r" then s.assignFields chars (args.drop 1)
  else s.assignFields (chars.filter (· != '\\')) args

def changeDirectory (s : Session) (args : List String) : Session :=
  let before := Place.path s.tree.workingDirectory
  let target := match args with
    | [] => (s.get? "HOME").getD ""
    | "-" :: _ => (s.get? "OLDPWD").getD before
    | path :: _ => path
  match s.tree.lookup (if target.isEmpty then "." else target) with
  | .ok (place, .directory) =>
    let s := (s.set "OLDPWD" before).publish "OLDPWD"
    let s := { s with tree := { s.tree with workingDirectory := place } }
    let s := (s.set "PWD" (Place.path place)).publish "PWD"
    s.takeOwn (if args.head? == some "-" then .writes (Place.path place ++ "\n") else {})
  | _ => s.complain 2 s!"cd: can't cd to {target}"

/-- Runs a command of the shell itself that starts no other. -/
def builtin? (s : Session) (name : String) (args : List String) : Option Session :=
  let named := s!"{s.name}: {s.line}: {name}"
  match name with
  | "exit" => some (s.exit args)
  | "return" => some (s.leaveFunction args)
  | "break" => some (s.leaveLoops name false args)
  | "continue" => some (s.leaveLoops name true args)
  | "trap" => some (s.trap args)
  | "local" => some (s.hide args)
  | "kill" => some (s.kill args)
  | "export" => some (s.exportAll args)
  | "unset" => some (s.unsetAll args)
  | "set" => some (s.setAll args)
  | "shift" => some (s.shift args)
  | "read" => some (s.read args)
  | "cd" => some (s.changeDirectory args)
  | "echo" => some (s.takeOwn (Printing.echo args))
  | "printf" => some (s.takeOwn (Format.printf false named args))
  | "test" => some (s.takeOwn (Condition.test s.tree named args))
  | "[" => some (s.takeOwn (Condition.bracket s.tree named args))
  | "pwd" => some (s.takeOwn (.writes (Place.path s.tree.workingDirectory ++ "\n")))
  | "true" | ":" | "wait" => some { s with status := 0 }
  | "false" => some { s with status := 1 }
  | _ => none

end Session

end EnvInject.Shell
