import EnvInject.Command.Call
import EnvInject.Command.Condition
import EnvInject.Command.Format

/-!
# Programs of a host

The programs that every host has in its program directories.

* `Program` : the programs;
* `Program.ofFile?` : the program that a file holds;
* `Program.run` : what a program does that starts no other;
* `Program.install` : a file tree with the programs.
-/

namespace EnvInject

inductive Program where
  | shell
  | environment
  | cat
  | echo
  | printf
  | printenv
  | pwd
  | sleep
  | succeed
  | fail
  | test
  | bracket
  deriving DecidableEq, Repr

namespace Program

def names : List (String × Program) :=
  [("sh", .shell), ("dash", .shell), ("env", .environment), ("cat", .cat), ("echo", .echo),
    ("printf", .printf), ("printenv", .printenv), ("pwd", .pwd), ("sleep", .sleep),
    ("true", .succeed), ("false", .fail), ("test", .test), ("[", .bracket)]

def directories : List Place := [["usr", "bin"], ["bin"]]

/-- What a file with machine code starts with. -/
def mark : Bytes := [0x7F, 0x45, 0x4C, 0x46]

/-- The program that a file holds. Machine code is not read any further: which program it is, its place
tells. -/
def ofFile? (place : Place) (content : Bytes) : Option Program :=
  if mark.isPrefixOf content && directories.contains place.dropLast then
    place.getLast?.bind fun name => names.lookup name
  else none

/-- A file tree with the programs and the usual directories. -/
def install (tree : FileTree) : FileTree :=
  let withDirectories := ["/usr/bin", "/bin", "/tmp", "/etc", "/home", "/root", "/dev"].foldl
    FileTree.makeDirectory tree
  let withNull := withDirectories.write "/dev/null" []
  (directories.flatMap fun d => names.map fun p => d ++ [p.1]).foldl
    (fun tree place => tree.write (Place.path place) mark (some { executable := true }))
    withNull

/-! ## What they do -/

/-- Writes a file or the input after other output. A file that cannot be read is complained of. -/
def catFile (call : Call) (o : Outcome) (path : String) : Outcome :=
  if path == "-" || path == "/dev/stdin" then
    { o with output := o.output ++ o.unread, unread := [] }
  else match call.tree.read path with
    | .ok content => { o with output := o.output ++ content }
    | .error e =>
      let complaint := Utf8.encode s!"{call.name}: {path}: {e.reason}\n"
      { o with ending := .exited 1, errors := o.errors ++ complaint }

/-- Writes files one after the other; without any, the input. -/
def catAll (call : Call) : Outcome :=
  let paths := if call.args.head? == some "--" then call.args.drop 1 else call.args
  (if paths.isEmpty then ["-"] else paths).foldl (catFile call) { unread := call.input }

def listVariables (env : Environment) : Outcome :=
  .writes (String.join (env.rendered.map (· ++ "\n")))

/-- Writes the values of variables, and fails if one is not set. -/
def printVariables (env : Environment) (names : List String) : Outcome :=
  { ending := .exited (if names.all env.contains then 0 else 1)
    output := Utf8.encode (String.join ((names.filterMap env.get?).map (· ++ "\n"))) }

/-- What a program does that starts no other program and leaves its input alone. -/
def runAlone (program : Program) (call : Call) : Outcome :=
  match program with
  | echo => Printing.echoProgram call.args
  | printf => Format.printf true call.name call.args
  | printenv =>
    if call.args.isEmpty then listVariables call.env else printVariables call.env call.args
  | pwd => .writes (Place.path call.tree.workingDirectory ++ "\n")
  | fail => .exits 1
  | test => Condition.test call.tree call.name call.args
  | bracket => Condition.bracket call.tree call.name call.args
  | environment => listVariables call.env
  | shell | cat | sleep | succeed => {}

def run (program : Program) (call : Call) : Outcome :=
  match program with
  | cat => catAll call
  | _ => (program.runAlone call).leaving call.input

end Program

end EnvInject
