import EnvInject.Decryption
import EnvInject.Policy

/-!
# Settings

Where the store is, how its documents are read, and what marks a placeholder.

* `Settings` : the settings, with their defaults;
* `Settings.check` : whether one can work with them;
* `Settings.storePath` : where the store is on a host (`~` stands for the home directory);
* `Settings.openStore` : the store.
-/

namespace EnvInject

/-- What an invocation works with. -/
structure Settings where
  /-- The directory of the store, as it is written. -/
  path : String := "~/.shadow-exec/store"
  /-- The name of the engine. -/
  engine : String := "file"
  /-- The value that marks a placeholder in strict mode. -/
  placeholder : String := defaultPlaceholder
  deriving DecidableEq, Repr

/-- Why settings cannot be had or used. -/
inductive SettingsError where
  /-- The file of settings could not be read. -/
  | unreadable (file cause : String)
  /-- The file does not hold settings. The words are those of the parser, if it has any. -/
  | malformed (file : String) (words : Option String)
  | emptyPath
  | unknownEngine (name : String)
  | emptyPlaceholder
  /-- The settings were had and cannot be used. -/
  | unusable (cause : SettingsError)
  deriving DecidableEq, Repr

def SettingsError.message : SettingsError → String
  | unreadable file cause => s!"Failed to read config file: {Text.quote file}: {cause}"
  | malformed file none => s!"Failed to parse config file: {Text.quote file}"
  | malformed file (some words) => s!"Failed to parse config file: {Text.quote file}: {words}"
  | emptyPath => "Store path cannot be empty"
  | unknownEngine name => Engine.unsupported name
  | emptyPlaceholder => "Strict value cannot be empty"
  | unusable cause => s!"Configuration validation failed: {cause.message}"

namespace Settings

def engine? (s : Settings) : Except SettingsError Engine :=
  match Engine.ofText? s.engine with
  | some engine => .ok engine
  | none => .error (.unknownEngine s.engine)

/-- Whether one can work with the settings; the first fault is the error. -/
def check (s : Settings) : Except SettingsError Unit := do
  if s.path.isEmpty then throw .emptyPath
  let _ ← s.engine?
  if s.placeholder.isEmpty then throw .emptyPlaceholder

/-- Where the store is. After a leading `~` slashes of either kind are dropped. -/
def storePath (s : Settings) (home workingDirectory : String) : String :=
  if Path.isAbsolute s.path then s.path
  else match s.path.toList with
    | '~' :: rest =>
      Path.join home (String.ofList (rest.dropWhile fun c => c == '/' || c == '\\'))
    | _ => Path.join workingDirectory s.path

def storePathOn (s : Settings) (host : Host) : String := s.storePath host.home host.workingDirectory

def openStore (s : Settings) (host : Host) : Except SettingsError Store := do
  let engine ← s.engine?
  pure { root := s.storePathOn host, engine }

end Settings

end EnvInject
