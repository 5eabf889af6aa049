import EnvInject.Error
import EnvInject.Secret.Name
import EnvInject.Secret.Set

/-!
# Collecting secrets

The entries of a document, path and value in document order, become a secret set. Under path keys a
path stands for its variable name and two different paths must not stand for one name. Under
verbatim keys the path itself is the name and a repeated one keeps its last value.

* `KeyMode` : which of the two;
* `collect` : the set of a service's entries, or the error of the first entry that breaks the rule.
-/

namespace EnvInject

/-- How the keys of a document name variables. -/
inductive KeyMode where
  /-- Keys form paths, which stand for variable names. -/
  | paths
  /-- Keys are variable names as they are. -/
  | verbatim
  deriving DecidableEq, Repr

namespace Secret

abbrev Entry := String × String

/-- Collects under path keys. `origins` holds the path of every name in `set`. -/
def collectPaths (service : String) (origins : List (String × String)) (set : SecretSet) :
    List Entry → Except StoreError SecretSet
  | [] => .ok set
  | (path, value) :: rest =>
    let name := variableName path
    if name.isEmpty then
      .error (.malformed service s!"secret path '{path}' normalizes to an empty name")
    else match origins.lookup name with
      | some first =>
        if first = path then collectPaths service origins (set.insert name value) rest
        else .error (.nameClash service name first path)
      | none => collectPaths service ((name, path) :: origins) (set.insert name value) rest

/-- The secret set of a service's entries. -/
def collect (service : String) (mode : KeyMode) (entries : List Entry) :
    Except StoreError SecretSet :=
  match mode with
  | .verbatim => .ok (SecretSet.ofPairs entries)
  | .paths => collectPaths service [] .empty entries

end Secret

end EnvInject
