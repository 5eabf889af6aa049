import EnvInject.CommandLine
import EnvInject.Doctor
import EnvInject.Log

/-!
# The tool

One invocation of the tool, from its arguments to what it writes and its exit code.

* `Tool.policy`, `Tool.request` : what a command line asks of an execution;
* `Tool.exec`, `Tool.doctor` : the tasks;
* `Tool.run` : an invocation.
-/

namespace EnvInject.Tool

def name : String := "shadow-exec"

def version : String := "0.1.0"

def usage : String :=
  "Usage: shadow-exec [OPTIONS] doctor\n" ++
    "       shadow-exec [OPTIONS] exec [OPTIONS] <SERVICES>... -- <COMMAND>...\n"

/-- The exit code after a command line that is wrong. -/
def misused : Nat := 2

/-- The exit code with which a code outside a byte is passed on. -/
def exitByte (code : Int) : Nat := if 0 ≤ code ∧ code ≤ 255 then code.toNat else 1

def complain (code : Nat) (message : String) : Outcome := .fails code s!"{name}: {message}"

/-! ## Execution -/

def policy (host : Host) (settings : Settings) (task : ExecTask) : Policy where
  pristine := task.pristine
  strict := task.strict
  noClobber := task.noClobber
  placeholder := task.placeholder.getD settings.placeholder
  verbatimKeys := Settings.verbatimKeys host

def request (host : Host) (settings : Settings) (task : ExecTask) : Request where
  services := task.services
  command := task.command
  args := task.args
  policy := policy host settings task

def openStore (host : Host) (line : CommandLine) : Except SettingsError (Settings × Store) := do
  let settings ← Settings.inForce host line.config line.store
  pure (settings, ← settings.openStore host)

/-- What a step writes to the output and to the error stream. Details are below the level of the log,
verbose or not. -/
def written (host : Host) (coloured verbose : Bool) : Step → Bytes × Bytes
  | .announce notice => ([], if verbose then Utf8.encode (notice.line coloured) else [])
  | .tell _ | .fetch .. => ([], [])
  | .report collision => ([], Utf8.encode s!"warning: {collision.message}\n")
  | .launch command args env =>
    match Command.outcome host command args env with
    | .ok o => (o.output, o.errors)
    | .error _ => ([], [])

def isColoured (host : Host) : Bool := (host.nonEmpty? "NO_COLOR").isNone

/-- The outcome of a run: what its steps write, and its error. -/
def outcomeOf (host : Host) (verbose : Bool) (run : Run Int) : Outcome :=
  let coloured := isColoured host
  let skipped := String.join (host.captured.skipped.map (Log.skippedLine coloured))
  let writes := run.steps.map (written host coloured verbose)
  let last : Outcome := match run.result with
    | .ok code => .exits (exitByte code)
    | .error e => complain e.exitCode e.message
  { ending := last.ending
    output := writes.flatMap Prod.fst
    errors := Utf8.encode skipped ++ writes.flatMap Prod.snd ++ last.errors }

def exec (host : Host) (line : CommandLine) (task : ExecTask) : Outcome :=
  match openStore host line with
  | .error e => complain ExecError.injectionFailed e.message
  | .ok (settings, store) =>
    outcomeOf host line.verbose
      (execute (request host settings task) host.captured.environment (store.source host)
        host.launcher)

/-! ## Invocations -/

def doctor (host : Host) (line : CommandLine) : Outcome :=
  let report := Doctor.examine host line.config line.store
  { ending := .exited (if report.passed then 0 else 1)
    output := Utf8.encode report.text
    errors := Utf8.encode (if report.passed then "" else "\nError: Doctor checks failed\n") }

def stopped : Stop → Outcome
  | .help => .writes usage
  | .version => .writes s!"{name} {version}\n"
  | .misuse => { ending := .exited misused, errors := Utf8.encode ("error: " ++ usage) }

/-- The command line of an invocation. A variable of the process stands for the directory of the
store where the arguments do not give it. -/
def commandLine (host : Host) (args : List String) : Except Stop CommandLine := do
  let line ← CommandLine.read args
  if line.store.isNone && host.captured.skipped.contains Settings.storeVariable then throw .misuse
  else pure { line with store := line.store.or (host.get? Settings.storeVariable) }

/-- One invocation. -/
def run (host : Host) (args : List String) : Outcome :=
  match commandLine host args with
  | .error stop => stopped stop
  | .ok line =>
    match line.task with
    | .doctor => doctor host line
    | .exec task => exec host line task

end EnvInject.Tool
