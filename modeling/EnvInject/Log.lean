import EnvInject.Run

/-!
# Log lines

What a run tells about itself goes to the error stream, a line each, with colours if they are
wanted.

* `Log.line` : a line with its level, message and fields;
* `Notice.line`, `skippedLine` : the lines of notices and of variables that were left out.
-/

namespace EnvInject

namespace Log

inductive Level where
  | info
  | warn
  deriving DecidableEq, Repr

def Level.name : Level → String
  | info => "INFO"
  | warn => "WARN"

def Level.colour : Level → Nat
  | info => 32
  | warn => 33

/-- A text in a style, if styles are wanted. -/
def styled (coloured : Bool) (style : Nat) (s : String) : String :=
  if coloured then s!"\x1b[{style}m{s}\x1b[0m" else s

def field (coloured : Bool) (name value : String) : String :=
  styled coloured 3 name ++ styled coloured 2 "=" ++ value

def line (coloured : Bool) (level : Level) (message : String) (fields : List (String × String)) :
    String :=
  let head := styled coloured level.colour (" " ++ level.name)
  " ".intercalate (head :: message :: fields.map fun f => field coloured f.1 f.2) ++ "\n"

end Log

def Notice.line (coloured : Bool) : Notice → String
  | pristineMode => Log.line coloured .info "pristine mode engaged" []
  | strictMode placeholder =>
    Log.line coloured .info "strict mode engaged" [("strict_value", placeholder)]
  | environment names =>
    Log.line coloured .info "with environment" [("variables", Text.quoteList names)]

def Log.skippedLine (coloured : Bool) (name : String) : String :=
  Log.line coloured .warn "skipping non UTF-8 environment variable" [("variable", name)]

end EnvInject
