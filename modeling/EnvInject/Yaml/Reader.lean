import EnvInject.Yaml.Link
import EnvInject.Yaml.Plain

/-!
# Reading YAML

The value of a linked node. A tag that begins with an exclamation mark belongs to the value; the
node under it is then read for itself.

* `scalarValue?` : the value of a scalar;
* `Reader.value` : the value of a node, within limits on depth and on the aliases followed;
* `Value.read?` : the value of a document.
-/

namespace EnvInject.Yaml

/-! ## Tags -/

/-- The tag of a type of the notation itself. -/
def coreTag (name : String) : Bytes := Utf8.encode ("tag:yaml.org,2002:" ++ name)

def isLocal (tag : Bytes) : Bool := tag.head? == some 0x21

def localName? (tag : Bytes) : Option String :=
  if isLocal tag then Utf8.decode? (if tag.length = 1 then tag else tag.drop 1) else none

/-! ## Scalars -/

def integerValue? (s : String) : Option Value :=
  match Plain.integer s with
  | .integer n => some (.number (.int n))
  | _ => none

/-- The value of a scalar under a tag that does not belong to it. -/
def taggedScalar? (tag : Bytes) (plain : Bool) (s : String) : Option Value :=
  if tag == coreTag "bool" then (Plain.bool? s).map .bool
  else if tag == coreTag "int" then integerValue? s
  else if tag == coreTag "float" then (Plain.float? s).map fun x => .number (.float x)
  else if tag == coreTag "null" then if Plain.isNull s then some .null else none
  else if isLocal tag && plain then Plain.value? s
  else some (.string s)

def scalarValue? (tag : Option Bytes) (plain : Bool) (s : String) : Option Value :=
  match tag with
  | some tag => taggedScalar? tag plain s
  | none => if plain then Plain.value? s else some (.string s)

/-! ## Nodes -/

/-- A step of reading, with the number of aliases that may still be followed. -/
abbrev Reader := StateT Nat Option

namespace Reader

def follow (l : Linked) : NumberedNode → Reader NumberedNode
  | .alias id => do
    match ← get, l.target? id with
    | left + 1, some node =>
      set left
      pure node
    | _, _ => failure
  | node => pure node

def tagOf : NumberedNode → Option Bytes
  | .alias _ => none
  | .scalar _ tag _ _ | .sequence _ tag _ | .mapping _ tag _ => tag

/-- The value of a node that is no alias. What stands in a collection is read by `inner?`, without which
there may be no collection. -/
def valueWith (inner? : Option (NumberedNode → Reader Value)) (node : NumberedNode) :
    Reader Value := do
  let tag := tagOf node
  let name? := tag.bind localName?
  let content : Value ←
    match inner?, node with
    | _, .scalar _ _ plain s => liftM (scalarValue? (if name?.isSome then none else tag) plain s)
    | some inner, .sequence _ _ items => do
      pure (.sequence (← items.mapM inner))
    | some inner, .mapping _ _ pairs => do
      let pairs ← pairs.mapM fun (key, v) => do
        pure (← inner key, ← inner v)
      if Value.distinctKeys pairs then pure (.mapping pairs) else failure
    | _, _ => failure
  pure ((name?.map (Value.tagged · content)).getD content)

/-- The value of a node inside at most `depth` more collections. -/
def value (l : Linked) : (depth : Nat) → NumberedNode → Reader Value
  | 0, node => do valueWith none (← follow l node)
  | depth + 1, node => do valueWith (some (value l depth)) (← follow l node)

end Reader

def maxDepth : Nat := 128

/-- How many aliases may be followed for each part of a document. -/
def aliasesPerEvent : Nat := 100

def Linked.value? (l : Linked) : Option Value :=
  ((Reader.value l maxDepth l.root).run (aliasesPerEvent * l.root.events)).map (·.1)

/-- The value of a document; one without content is null. -/
def Value.read? (s : String) : Option Value :=
  match Node.read? s with
  | none => none
  | some none => some .null
  | some (some node) => node.link?.bind Linked.value?

end EnvInject.Yaml
