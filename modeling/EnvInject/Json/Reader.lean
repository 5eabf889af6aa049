import EnvInject.Json.Token

/-!
# Reading JSON

The value of a token sequence, read with the containers that are open. An object keeps its members
by ascending key, and of a repeated key the last value.

* `Json.read?` : the value of a document; at most 127 containers may be open at once.
-/

namespace EnvInject.Json

/-- A container that is open, with what it holds so far; the items of an array stand in reverse. -/
inductive Open where
  | array (items : List Json)
  | object (members : List (String × Json)) (key : String)

def maxOpen : Nat := 127

mutual

/-- Reads the value that starts here, inside the open containers. -/
def value? (outer : List Open) : List Token → Option Json
  | .scalar v :: rest => after? outer v rest
  | .text s :: rest => after? outer (.string s) rest
  | .openArray :: rest =>
    if maxOpen ≤ outer.length then none
    else match rest with
      | .closeArray :: rest => after? outer (.array []) rest
      | rest => value? (.array [] :: outer) rest
  | .openObject :: rest =>
    if maxOpen ≤ outer.length then none
    else match rest with
      | .closeObject :: rest => after? outer (.object []) rest
      | .text key :: .colon :: rest => value? (.object [] key :: outer) rest
      | _ => none
  | _ => none

def after? : List Open → Json → List Token → Option Json
  | [], v, [] => some v
  | .array items :: outer, v, .comma :: rest => value? (.array (v :: items) :: outer) rest
  | .array items :: outer, v, .closeArray :: rest =>
    after? outer (.array (v :: items).reverse) rest
  | .object members key :: outer, v, .comma :: .text next :: .colon :: rest =>
    value? (.object (Ordered.put key v members) next :: outer) rest
  | .object members key :: outer, v, .closeObject :: rest =>
    after? outer (.object (Ordered.put key v members)) rest
  | _, _, _ => none

end

def read? (s : String) : Option Json := (tokens? s).bind (value? [])

end EnvInject.Json
