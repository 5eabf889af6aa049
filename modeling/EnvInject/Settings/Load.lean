import EnvInject.Settings.Document

/-!
# Loading settings

Settings come from a file, from a variable of the process, and from the command line; what comes
later overrides what came before.

* `Settings.load` : the settings of the file and of the process;
* `Settings.inForce` : the settings that an invocation works with, checked.
-/

namespace EnvInject.Settings

/-- The file of settings in the working directory. -/
def defaultFile : String := "shadow-exec.yaml"

/-- The variable that overrides the directory of the store. -/
def storeVariable : String := "SHADOW_EXEC_STORE"

/-- The variable that asks for verbatim keys, whatever its value. -/
def verbatimVariable : String := "SHADOW_EXEC_NO_PATHS"

def verbatimKeys (host : Host) : Bool :=
  (host.get? verbatimVariable).isSome || host.captured.skipped.contains verbatimVariable

def ofFile (host : Host) (file : String) : Except SettingsError Settings := do
  let bytes ← (host.tree.read file).mapError fun e => .unreadable file e.message
  match Utf8.decode? bytes with
  | none => throw (.unreadable file "stream did not contain valid UTF-8")
  | some content =>
    match read? content with
    | some settings => pure settings
    | none => throw (.malformed file none)

/-- The settings of the file that is named, or of the default one if there is one. -/
def ofFileOrDefault (host : Host) : (file : Option String) → Except SettingsError Settings
  | some file => ofFile host file
  | none => if host.tree.isFile defaultFile then ofFile host defaultFile else .ok {}

/-- The settings of the file, with the directory of the store that a variable gives. -/
def load (host : Host) (file : Option String) : Except SettingsError Settings := do
  let settings ← ofFileOrDefault host file
  pure { settings with path := (host.nonEmpty? storeVariable).getD settings.path }

/-- The settings that an invocation works with: those loaded, with the directory of the store that
the command line gives, if one can work with them. -/
def inForce (host : Host) (file store : Option String) : Except SettingsError Settings := do
  let loaded ← load host file
  let settings := { loaded with path := store.getD loaded.path }
  (settings.check).mapError .unusable
  pure settings

end EnvInject.Settings
