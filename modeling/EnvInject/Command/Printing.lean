import EnvInject.Command.Escape
import EnvInject.Command.Outcome

/-!
# Plain printing

The command `echo` is a command of the shell, where escapes always count, and a program, where they
count if it is asked to see them.

* `Printing.echo` : the command of the shell;
* `Printing.echoProgram` : the program.
-/

namespace EnvInject.Printing

def argumentRules (isProgram : Bool) : EscapeRules := { zero := true, hex := isProgram }

def writeEscaped (isProgram : Bool) (line lineEnd : String) : Outcome :=
  match (argumentRules isProgram).resolve line.toList with
  | (bytes, true) => { output := bytes }
  | (bytes, false) => { output := bytes ++ Utf8.encode lineEnd }

/-- Writes the arguments with spaces between them and a line end after them. -/
def echo (args : List String) : Outcome :=
  match args with
  | "-n" :: rest => writeEscaped false (" ".intercalate rest) ""
  | args => writeEscaped false (" ".intercalate args) "\n"

/-- What the program `echo` is asked for: whether escapes count and whether a line end follows. -/
structure EchoOptions where
  escapes : Bool := false
  lineEnd : Bool := true

def EchoOptions.take (o : EchoOptions) (letter : Char) : EchoOptions :=
  match letter with
  | 'n' => { o with lineEnd := false }
  | 'e' => { o with escapes := true }
  | _ => { o with escapes := false }

def echoLetters? (arg : String) : Option (List Char) :=
  match arg.toList with
  | '-' :: c :: letters =>
    if (c :: letters).all "neE".toList.contains then some (c :: letters) else none
  | _ => none

def echoProgramWith (o : EchoOptions) : List String → Outcome
  | [] => .writes (if o.lineEnd then "\n" else "")
  | arg :: rest =>
    match echoLetters? arg with
    | some letters => echoProgramWith (letters.foldl EchoOptions.take o) rest
    | none =>
      let line := " ".intercalate (arg :: rest)
      let lineEnd := if o.lineEnd then "\n" else ""
      if o.escapes then writeEscaped true line lineEnd else .writes (line ++ lineEnd)

def echoProgram (args : List String) : Outcome := echoProgramWith {} args

end EnvInject.Printing
