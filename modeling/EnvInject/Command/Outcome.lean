import EnvInject.Command.Ending
import EnvInject.Text.Utf8

/-!
# Outcomes of commands

* `Outcome` : how a command ended, what it wrote and what it did not read;
* `Outcome.writes`, `exits`, `fails` : outcomes with output, without any, and with a complaint;
* `Outcome.leaving` : what is left of the input.
-/

namespace EnvInject

/-- How a command ended, what it wrote to its output and its error stream, and what it left of its
input. -/
structure Outcome where
  ending : Ending := .exited 0
  output : Bytes := []
  errors : Bytes := []
  unread : Bytes := []
  deriving DecidableEq, Repr

namespace Outcome

def writes (text : String) : Outcome := { output := Utf8.encode text }

def exits (code : Nat) : Outcome := { ending := .exited code }

def fails (code : Nat) (complaint : String) : Outcome :=
  { ending := .exited code, errors := Utf8.encode (complaint ++ "\n") }

def leaving (o : Outcome) (input : Bytes) : Outcome := { o with unread := input }

def succeeded (o : Outcome) : Bool := o.ending == .exited 0

end Outcome

end EnvInject
