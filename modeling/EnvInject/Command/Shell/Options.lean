/-!
# Options of the shell

* `Options` : what the options of a shell say;
* `Options.read` : takes the options in front of other arguments.
-/

namespace EnvInject.Shell

structure Options where
  /-- Whether a command that fails ends the script. -/
  exitOnError : Bool := false
  /-- Whether a parameter without a value ends the script. -/
  exitOnUnset : Bool := false
  /-- Whether patterns stand for themselves. -/
  literal : Bool := false
  /-- Whether the script is the first argument, or else whether it is the input. -/
  isArgument : Bool := false
  isInput : Bool := false
  deriving DecidableEq, Repr

namespace Options

/-- The letters of options that change nothing that a script can see. -/
def silentLetters : List Char := "aiImnxvVECb".toList

def names : List (String × Char) :=
  [("errexit", 'e'), ("noglob", 'f'), ("ignoreeof", 'I'), ("interactive", 'i'), ("monitor", 'm'),
    ("noexec", 'n'), ("stdin", 's'), ("xtrace", 'x'), ("verbose", 'v'), ("vi", 'V'), ("emacs", 'E'),
    ("noclobber", 'C'), ("allexport", 'a'), ("notify", 'b'), ("nounset", 'u')]

def turn? (o : Options) (on : Bool) (letter : Char) : Option Options :=
  match letter with
  | 'e' => some { o with exitOnError := on }
  | 'u' => some { o with exitOnUnset := on }
  | 'f' => some { o with literal := on }
  | 's' => some { o with isInput := on }
  | _ => if silentLetters.contains letter then some o else none

/-- Takes options by their letters; each `o` among them takes a name from the arguments. Only where
a shell starts may the script be an argument. -/
def takeLetters (starting on : Bool) (o : Options) :
    List Char → List String → Except String (Options × List String)
  | [], args => .ok (o, args)
  | 'o' :: letters, [] => takeLetters starting on o letters []
  | 'o' :: letters, name :: args =>
    match (names.lookup name).bind (o.turn? on) with
    | some o => takeLetters starting on o letters args
    | none => .error s!"Illegal option -o {name}"
  | c :: letters, args =>
    if starting && c == 'c' then takeLetters starting on { o with isArgument := true } letters args
    else match o.turn? on c with
      | some o => takeLetters starting on o letters args
      | none => .error s!"Illegal option -{c}"

/-- Takes the options in front of other arguments. The error is a complaint. `fuel` bounds the
number of arguments. -/
def readWithin (starting : Bool) :
    (fuel : Nat) → Options → List String → Except String (Options × Bool × List String)
  | 0, o, args => .ok (o, false, args)
  | _ + 1, o, [] => .ok (o, false, [])
  | fuel + 1, o, arg :: args =>
    match arg.toList with
    | ['-'] => .ok (o, false, args)
    | ['-', '-'] => .ok (o, true, args)
    | '-' :: letters => do
      let (o, args) ← takeLetters starting true o letters args
      readWithin starting fuel o args
    | '+' :: letters => do
      let (o, args) ← takeLetters starting false o letters args
      readWithin starting fuel o args
    | _ => .ok (o, false, arg :: args)

/-- Takes the options in front of other arguments, and tells whether a sign of its own parts them.
The error is a complaint. -/
def read (starting : Bool) (o : Options) (args : List String) :
    Except String (Options × Bool × List String) :=
  readWithin starting args.length o args

end Options

end EnvInject.Shell
