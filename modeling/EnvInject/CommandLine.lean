import EnvInject.Text.Split

/-!
# Command lines

`[options] doctor` and `[options] exec [options] SERVICE... -- COMMAND [ARG...]`. The options that
every task has may stand before or after its name.

* `Options` : the options with their values;
* `Reading.step` : takes one more argument;
* `CommandLine.read` : what a command line asks for.
-/

namespace EnvInject

inductive OptionName where
  | verbose
  | config
  | store
  | pristine
  | strict
  | strictValue
  | noClobber
  deriving DecidableEq, Repr

namespace OptionName

def longNames : List (String × OptionName) :=
  [("verbose", verbose), ("config", config), ("store", store), ("pristine", pristine),
    ("strict", strict), ("strict-value", strictValue), ("no-clobber", noClobber),
    ("noclobber", noClobber)]

def shortNames : List (Char × OptionName) := [('v', verbose), ('c', config)]

def hasValue : OptionName → Bool
  | config | store | strictValue => true
  | _ => false

/-- Whether every task has the option. -/
def isGeneral : OptionName → Bool
  | verbose | config | store => true
  | _ => false

end OptionName

/-- Options with their values; those without one have an empty text. None stands twice. -/
abbrev Options := List (OptionName × String)

/-- The options that are in force when some stand before the name of the task and some after it. -/
def Options.general (before after : Options) (name : OptionName) : Option String :=
  (after.lookup name).or (before.lookup name)

inductive TaskName where
  | doctor
  | exec
  deriving DecidableEq, Repr

structure ExecTask where
  services : List String
  pristine : Bool := false
  strict : Bool := false
  /-- The value that marks a placeholder, if it is given. -/
  placeholder : Option String := none
  noClobber : Bool := false
  command : String
  args : List String := []
  deriving DecidableEq, Repr

inductive Task where
  | doctor
  | exec (task : ExecTask)
  deriving DecidableEq, Repr

structure CommandLine where
  verbose : Bool := false
  /-- The file of settings. -/
  config : Option String := none
  /-- The directory of the store. -/
  store : Option String := none
  task : Task
  deriving DecidableEq, Repr

/-- Why reading a command line stops before it is understood. -/
inductive Stop where
  /-- The command line asks how to use the tool. -/
  | help
  | version
  /-- The command line is wrong. -/
  | misuse
  deriving DecidableEq, Repr

/-! ## Arguments -/

structure Reading where
  /-- The options before the name of the task. -/
  before : Options := []
  name : Option TaskName := none
  /-- The options after it. -/
  after : Options := []
  services : List String := []
  /-- An option whose value is to come. -/
  pending : Option OptionName := none
  /-- The arguments after `--`. -/
  rest : Option (List String) := none

namespace Reading

/-- Sets an option, which must not be set yet. -/
def set (r : Reading) (option : OptionName) (value : String) : Except Stop Reading :=
  if option == .config && value.isEmpty then throw .misuse
  else if r.name.isNone then
    if (r.before.lookup option).isSome then throw .misuse
    else pure { r with before := r.before ++ [(option, value)], pending := none }
  else if (r.after.lookup option).isSome then throw .misuse
  else pure { r with after := r.after ++ [(option, value)], pending := none }

def admits (r : Reading) (option : OptionName) : Bool := option.isGeneral || r.name == some .exec

def option (r : Reading) (option : OptionName) (value : Option String) : Except Stop Reading :=
  if !r.admits option then throw .misuse
  else match option.hasValue, value with
    | true, some value => r.set option value
    | true, none => pure { r with pending := some option }
    | false, none => r.set option ""
    | false, some _ => throw .misuse

def longOption (r : Reading) (text : List Char) : Except Stop Reading :=
  let (name, value) := match Text.cutFirst? '=' text with
    | some (name, value) => (String.ofList name, some (String.ofList value))
    | none => (String.ofList text, none)
  match OptionName.longNames.lookup name with
  | some option => r.option option value
  | none =>
    if name == "help" then throw .help
    else if name == "version" && r.name.isNone then throw .version
    else throw .misuse

/-- Takes options under their short names; the value of one is what follows it. -/
def shortOptions (r : Reading) : List Char → Except Stop Reading
  | [] => pure r
  | c :: rest =>
    match OptionName.shortNames.lookup c with
    | some option =>
      if option.hasValue then
        let value := if rest.head? == some '=' then rest.drop 1 else rest
        r.option option (if rest.isEmpty then none else some (String.ofList value))
      else do shortOptions (← r.option option none) rest
    | none =>
      if c == 'h' then throw .help
      else if c == 'V' && r.name.isNone then throw .version
      else throw .misuse

def operand (r : Reading) (arg : String) : Except Stop Reading :=
  match r.pending, r.name with
  | some option, _ => r.set option arg
  | none, none =>
    if arg == "doctor" then pure { r with name := some .doctor }
    else if arg == "exec" then pure { r with name := some .exec }
    else if arg == "help" then throw .help
    else throw .misuse
  | none, some .exec => pure { r with services := r.services ++ [arg] }
  | none, some .doctor => throw .misuse

def step (r : Reading) (arg : String) : Except Stop Reading :=
  match r.rest, arg.toList with
  | some rest, _ => pure { r with rest := some (rest ++ [arg]) }
  | none, '-' :: c :: cs =>
    if r.pending.isSome then throw .misuse
    else if c != '-' then r.shortOptions (c :: cs)
    else if cs.isEmpty then pure { r with rest := some [] }
    else r.longOption cs
  | none, _ => r.operand arg

def task (r : Reading) : Except Stop Task :=
  let isSet (option : OptionName) : Bool := (r.after.lookup option).isSome
  match r.name, r.services, r.rest.getD [] with
  | some .doctor, _, [] => pure .doctor
  | some .exec, first :: more, command :: args =>
    pure (.exec
      { services := first :: more
        pristine := isSet .pristine
        strict := isSet .strict
        placeholder := r.after.lookup .strictValue
        noClobber := isSet .noClobber
        command, args })
  | _, _, _ => throw .misuse

def finish (r : Reading) : Except Stop CommandLine :=
  if r.pending.isSome then throw .misuse
  else do
    let general := Options.general r.before r.after
    pure
      { verbose := (general .verbose).isSome
        config := general .config
        store := general .store
        task := ← r.task }

end Reading

/-- What a command line asks for. -/
def CommandLine.read (args : List String) : Except Stop CommandLine := do
  (← args.foldlM Reading.step {}).finish

end EnvInject
