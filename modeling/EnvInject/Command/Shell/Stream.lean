import EnvInject.Text.Utf8

/-!
# Streams of commands

Every command writes to streams with numbers, 1 for its output and 2 for its errors. Redirections
send them elsewhere, and give it other input.

* `Destination`, `Streams` : where the streams go;
* `Streams.destination`, `Streams.send` : asks for a destination, and changes it.
-/

namespace EnvInject.Shell

inductive Destination where
  | stream (number : Nat)
  | nowhere
  | file (path : String)

/-- Where the streams of a command go that do not go where they went, and its input. -/
structure Streams where
  destinations : List (Nat × Destination) := []
  input : Option Bytes := none

namespace Streams

def destination (streams : Streams) (stream : Nat) : Destination :=
  (streams.destinations.lookup stream).getD (.stream stream)

def send (streams : Streams) (stream : Nat) (d : Destination) : Streams :=
  { streams with destinations := (stream, d) :: streams.destinations }

def files : List (String × Nat) :=
  [("/dev/stdout", 1), ("/dev/stderr", 2), ("/dev/fd/1", 1), ("/dev/fd/2", 2)]

/-- The file that takes what it is given and keeps nothing. -/
def nullPath : String := "/dev/null"

def pathDestination (streams : Streams) (path : String) : Destination :=
  if path == nullPath then .nowhere
  else match files.lookup path with
    | some n => streams.destination n
    | none => .file path

end Streams

end EnvInject.Shell
