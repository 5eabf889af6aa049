import EnvInject.Settings
import EnvInject.Yaml.Link

/-!
# Settings in YAML documents

Settings are the fields of a mapping. What is left out has its default; fields that are not known
are passed over. The value of a field is the text of a scalar, however it is written.

* `Settings.ofNode?` : the settings of a linked node;
* `Settings.read?` : the settings of a document.
-/

namespace EnvInject.Settings

open Yaml (Linked NumberedNode)

/-- A node, or the one that it is an alias of. -/
def follow? (l : Linked) : NumberedNode → Option NumberedNode
  | .alias id => l.target? id
  | node => some node

def scalar? (l : Linked) (node : NumberedNode) : Option String := do
  match ← follow? l node with
  | .scalar _ _ _ text => some text
  | _ => none

/-- The pairs of a mapping; what is left out counts as an empty one. -/
def pairs? (l : Linked) (node : NumberedNode) : Option (List (NumberedNode × NumberedNode)) := do
  match ← follow? l node with
  | .mapping _ _ pairs => some pairs
  | .scalar _ _ true "" => some []
  | _ => none

/-- The pairs of a mapping by the texts of their keys, no known key twice. -/
def fields? (l : Linked) (known : List String) (node : NumberedNode) :
    Option (List (String × NumberedNode)) := do
  let fields ← (← pairs? l node).mapM fun (key, value) => do pure (← scalar? l key, value)
  if known.all fun name => (fields.filter (·.1 == name)).length ≤ 1 then some fields else none

def textField? (l : Linked) (fields : List (String × NumberedNode)) (name default : String) :
    Option String :=
  match fields.lookup name with
  | some node => scalar? l node
  | none => some default

def ofNode? (l : Linked) : Option Settings := do
  let fields ← fields? l ["store", "strict_value"] l.root
  let storeFields ← match fields.lookup "store" with
    | some node => fields? l ["path", "engine"] node
    | none => some []
  let default : Settings := {}
  pure {
    path := ← textField? l storeFields "path" default.path
    engine := ← textField? l storeFields "engine" default.engine
    placeholder := ← textField? l fields "strict_value" default.placeholder }

/-- The settings of a document; one without content leaves all at their defaults. -/
def read? (s : String) : Option Settings := do
  match ← Yaml.Node.read? s with
  | none => some {}
  | some node => ofNode? (← node.link?)

end EnvInject.Settings
