import EnvInject.Document.Fault
import EnvInject.Engine
import EnvInject.Json.Reader
import EnvInject.Secret.Collect

/-!
# Secrets in JSON documents

Strings, numbers and truth values are secrets. Under path keys the keys from the root down to a
secret, joined by slashes, are its path; under verbatim keys only the top level holds secrets.

* `JsonSecrets.leaves` : the entries of a value at a path;
* `JsonSecrets.unwrap` : the members of a decrypted document without its metadata and wrapper;
* `JsonSecrets.entries` : the entries of a document.
-/

namespace EnvInject.Document.JsonSecrets

open Secret (Entry)

mutual

/-- The entries of the value at `path`. -/
def leaves (mode : KeyMode) (path : String) : Json → Except Fault (List Entry)
  | .string s => .ok [(path, s)]
  | .number n => .ok [(path, n.text Json.layout)]
  | .bool b => .ok [(path, Json.boolText b)]
  | .object members =>
    match mode with
    | .paths => membersLeaves mode (path ++ "/") members
    | .verbatim => .error (.value .json path (Json.text (.object members)))
  | .null => .error (.value .json path (Json.text .null))
  | .array items => .error (.value .json path (Json.text (.array items)))

def membersLeaves (mode : KeyMode) (above : String) :
    List (String × Json) → Except Fault (List Entry)
  | [] => .ok []
  | (key, value) :: rest => do
    let here ← leaves mode (above ++ key) value
    let further ← membersLeaves mode above rest
    pure (here ++ further)

end

/-- The members of a decrypted document that hold secrets: those of the wrapper, which must stand
alone beside the metadata, and without a wrapper all but the metadata. -/
def unwrap (members : List (String × Json)) : Except Fault (List (String × Json)) :=
  let own := members.filter (·.1 != "sops")
  match own.lookup "data" with
  | some (.object inner) => if 1 < own.length then .error .wrapperNotAlone else .ok inner
  | _ => .ok own

def ofValue (engine : Engine) (mode : KeyMode) : Json → Except Fault (List Entry)
  | .null => .ok []
  | .object members => do
    let own ← match engine with
      | .sops => unwrap members
      | .file => .ok members
    membersLeaves mode "" own
  | _ => .error (.notKeyed .json)

def entries (engine : Engine) (mode : KeyMode) (content : String) : Except Fault (List Entry) :=
  match Json.read? content with
  | none => .error (.invalid .json none)
  | some value => ofValue engine mode value

end EnvInject.Document.JsonSecrets
