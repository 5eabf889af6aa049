import EnvInject.Document.Fault
import EnvInject.Engine
import EnvInject.Secret.Collect
import EnvInject.Yaml.Reader

/-!
# Secrets in YAML documents

Strings, numbers and truth values are secrets, and what is a secret may be a key. Under path keys
the keys from the root down to a secret, joined by slashes, are its path; under verbatim keys only
the top level holds secrets.

* `YamlSecrets.leaves` : the entries of a value at a path;
* `YamlSecrets.removeKey` : a mapping without a key, the last pair in its place;
* `YamlSecrets.unwrap` : the pairs of a decrypted document without its metadata and wrapper;
* `YamlSecrets.entries` : the entries of a document.
-/

namespace EnvInject.Document.YamlSecrets

open Secret (Entry)
open Yaml (Value)

/-- The text of a scalar that may be a secret or a key. -/
def scalarText? : Value → Option String
  | .string s => some s
  | .number n => some (n.text Value.layout)
  | .bool b => some (Value.boolText b)
  | _ => none

def keyText (key : Value) : Except Fault String :=
  match scalarText? key with
  | some text => .ok text
  | none => .error (.key .yaml key.text)

mutual

/-- The entries of the value at `path`. -/
def leaves (mode : KeyMode) (path : String) : Value → Except Fault (List Entry)
  | .string s => .ok [(path, s)]
  | .number n => .ok [(path, n.text Value.layout)]
  | .bool b => .ok [(path, Value.boolText b)]
  | .mapping pairs =>
    match mode with
    | .paths => pairsLeaves mode (path ++ "/") pairs
    | .verbatim => .error (.value .yaml path (Value.text (.mapping pairs)))
  | .null => .error (.value .yaml path (Value.text .null))
  | .sequence items => .error (.value .yaml path (Value.text (.sequence items)))
  | .tagged tag value => .error (.value .yaml path (Value.text (.tagged tag value)))

def pairsLeaves (mode : KeyMode) (above : String) :
    List (Value × Value) → Except Fault (List Entry)
  | [] => .ok []
  | (key, value) :: rest => do
    let key ← keyText key
    let here ← leaves mode (above ++ key) value
    let further ← pairsLeaves mode above rest
    pure (here ++ further)

end

def hasKey (key : String) (pair : Value × Value) : Bool :=
  match pair.1 with
  | .string s => s == key
  | _ => false

/-- The pairs without the one that has this key; the last pair takes its place. -/
def removeKey (key : String) (pairs : List (Value × Value)) : List (Value × Value) :=
  let before := pairs.takeWhile (!hasKey key ·)
  let after := (pairs.dropWhile (!hasKey key ·)).drop 1
  before ++ after.getLast?.toList ++ after.dropLast

/-- The pairs of a decrypted document that hold secrets: those of the wrapper, which must stand
alone beside the metadata, and without a wrapper all but the metadata. -/
def unwrap (pairs : List (Value × Value)) : Except Fault (List (Value × Value)) :=
  let own := removeKey "sops" pairs
  match own.find? (hasKey "data") with
  | some (_, .mapping inner) => if 1 < own.length then .error .wrapperNotAlone else .ok inner
  | _ => .ok own

def ofValue (engine : Engine) (mode : KeyMode) : Value → Except Fault (List Entry)
  | .null => .ok []
  | .mapping pairs => do
    let own ← match engine with
      | .sops => unwrap pairs
      | .file => .ok pairs
    pairsLeaves mode "" own
  | _ => .error (.notKeyed .yaml)

def entries (engine : Engine) (mode : KeyMode) (content : String) : Except Fault (List Entry) :=
  match Value.read? content with
  | none => .error (.invalid .yaml none)
  | some value => ofValue engine mode value

end EnvInject.Document.YamlSecrets
