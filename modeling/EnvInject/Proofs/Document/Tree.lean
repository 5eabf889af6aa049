import EnvInject.Proofs.Document.Content

/-!
# Documents as trees

What looking for secrets sees of a value, whichever format it was read from: scalars, values under
keys, and values that no secret can be in. The two formats differ in how they read a key and how
they show a value, and in nothing else.

* `Tree`, `Tree.map` : the trees, over values of any kind;
* `Tree.found` : the scalars with their paths, or the place where looking for them stops;
* `found_map` : looking for secrets does not look at the values themselves;
* `Content.tree` : the tree of a value (`leaves_json`, `leaves_yaml` : its leaves are what is
  found);
* `Content.top`, `Content.found` : what stands at the top of a document, and what is found in it
  (`entries_eq_found`).
-/

namespace EnvInject.Document

open Secret (Entry)

variable {α β : Type}

/-- A value as it is looked through for secrets. -/
inductive Tree (α : Type) where
  /-- A string, a number or a truth value. -/
  | scalar (value : α)
  /-- Values under keys; a key that is no text is a fault. -/
  | keyed (value : α) (children : List (Except Fault String × Tree α))
  /-- A value that is no secret and has no keys, and the values inside it. -/
  | closed (value : α) (inside : List (Tree α))

/-- What keeps a document from giving secrets: one of its values, or something else. -/
inductive Stop (α : Type) where
  | value (path : String) (found : α)
  | fault (fault : Fault)

namespace Stop

def map (f : α → β) : Stop α → Stop β
  | value path found => value path (f found)
  | fault f => fault f

def toFault : Stop Content → Fault
  | value path found => .value found.format path found.shown
  | fault f => f

end Stop

/-- Scalars with their paths, or where looking for them stopped. -/
abbrev Found (α : Type) := Except (Stop α) (List (String × α))

namespace Found

def append : Found α → Found α → Found α
  | .ok here, .ok further => .ok (here ++ further)
  | .ok _, .error stop => .error stop
  | .error stop, _ => .error stop

def map (f : α → β) : Found α → Found β
  | .ok scalars => .ok (scalars.map fun p => (p.1, f p.2))
  | .error stop => .error (stop.map f)

theorem map_append (f : α → β) (a b : Found α) :
    map f (append a b) = append (map f a) (map f b) := by
  cases a with
  | error stop => rfl
  | ok here =>
    cases b with
    | error stop => rfl
    | ok further => exact congrArg Except.ok List.map_append

theorem append_eq_ok {a b : Found α} {scalars : List (String × α)}
    (h : append a b = .ok scalars) :
    ∃ here further, a = .ok here ∧ b = .ok further ∧ scalars = here ++ further := by
  cases a with
  | error stop => cases h
  | ok here =>
    cases b with
    | error stop => cases h
    | ok further => exact ⟨here, further, rfl, rfl, (Except.ok.inj h).symm⟩

def entries (found : Found Content) : Except Fault (List Entry) :=
  match found with
  | .ok scalars => .ok (scalars.map fun p => (p.1, p.2.scalarText))
  | .error stop => .error stop.toFault

theorem entries_append (a b : Found Content) :
    entries (append a b) = (do
      let here ← entries a
      let further ← entries b
      pure (here ++ further)) := by
  cases a with
  | error stop => rfl
  | ok here =>
    cases b with
    | error stop => rfl
    | ok further => exact congrArg Except.ok List.map_append

end Found

namespace Tree

mutual

def map (f : α → β) : Tree α → Tree β
  | scalar value => scalar (f value)
  | keyed value children => keyed (f value) (mapChildren f children)
  | closed value inside => closed (f value) (mapInside f inside)

def mapChildren (f : α → β) :
    List (Except Fault String × Tree α) → List (Except Fault String × Tree β)
  | [] => []
  | (key, tree) :: rest => (key, map f tree) :: mapChildren f rest

def mapInside (f : α → β) : List (Tree α) → List (Tree β)
  | [] => []
  | tree :: rest => map f tree :: mapInside f rest

end

mutual

/-- The scalars of the tree at `path`. -/
def found (mode : KeyMode) (path : String) : Tree α → Found α
  | scalar value => .ok [(path, value)]
  | keyed value children =>
    match mode with
    | .paths => childrenFound mode (path ++ "/") children
    | .verbatim => .error (.value path value)
  | closed value _ => .error (.value path value)

def childrenFound (mode : KeyMode) (above : String) :
    List (Except Fault String × Tree α) → Found α
  | [] => .ok []
  | (.error fault, _) :: _ => .error (.fault fault)
  | (.ok key, tree) :: rest =>
    (found mode (above ++ key) tree).append (childrenFound mode above rest)

end

mutual

/-- Looking for secrets does not look at the values themselves. -/
theorem found_map (f : α → β) (mode : KeyMode) (path : String) :
    (tree : Tree α) → (tree.map f).found mode path = (tree.found mode path).map f
  | scalar value => rfl
  | keyed value children => by
    cases mode with
    | paths => exact childrenFound_map f .paths (path ++ "/") children
    | verbatim => rfl
  | closed value inside => rfl

theorem childrenFound_map (f : α → β) (mode : KeyMode) (above : String) :
    (children : List (Except Fault String × Tree α)) →
      childrenFound mode above (mapChildren f children) = (childrenFound mode above children).map f
  | [] => rfl
  | (.error fault, tree) :: rest => rfl
  | (.ok key, tree) :: rest => by
    rw [mapChildren, childrenFound, childrenFound, Found.map_append,
      found_map f mode (above ++ key) tree, childrenFound_map f mode above rest]

end

/-! ## The trees of the two formats -/

mutual

def ofJson : Json → Tree Content
  | .string s => scalar (.json (.string s))
  | .number n => scalar (.json (.number n))
  | .bool b => scalar (.json (.bool b))
  | .object members => keyed (.json (.object members)) (ofMembers members)
  | .null => closed (.json .null) []
  | .array items => closed (.json (.array items)) (ofItems items)

def ofMembers : List (String × Json) → List (Except Fault String × Tree Content)
  | [] => []
  | (key, value) :: rest => (.ok key, ofJson value) :: ofMembers rest

def ofItems : List Json → List (Tree Content)
  | [] => []
  | item :: rest => ofJson item :: ofItems rest

end

mutual

def ofYaml : Yaml.Value → Tree Content
  | .string s => scalar (.yaml (.string s))
  | .number n => scalar (.yaml (.number n))
  | .bool b => scalar (.yaml (.bool b))
  | .mapping pairs => keyed (.yaml (.mapping pairs)) (ofPairs pairs)
  | .null => closed (.yaml .null) []
  | .sequence items => closed (.yaml (.sequence items)) (ofSequence items)
  | .tagged tag value => closed (.yaml (.tagged tag value)) [ofYaml value]

def ofPairs : List (Yaml.Value × Yaml.Value) → List (Except Fault String × Tree Content)
  | [] => []
  | (key, value) :: rest => (YamlSecrets.keyText key, ofYaml value) :: ofPairs rest

def ofSequence : List Yaml.Value → List (Tree Content)
  | [] => []
  | item :: rest => ofYaml item :: ofSequence rest

end

mutual

theorem leaves_json (mode : KeyMode) (path : String) :
    (value : Json) →
      JsonSecrets.leaves mode path value = ((ofJson value).found mode path).entries
  | .string s => rfl
  | .number n => rfl
  | .bool b => rfl
  | .object members => by
    cases mode with
    | paths => exact membersLeaves_json .paths (path ++ "/") members
    | verbatim => rfl
  | .null => rfl
  | .array items => rfl

theorem membersLeaves_json (mode : KeyMode) (above : String) :
    (members : List (String × Json)) →
      JsonSecrets.membersLeaves mode above members =
        (childrenFound mode above (ofMembers members)).entries
  | [] => rfl
  | (key, value) :: rest => by
    rw [JsonSecrets.membersLeaves, ofMembers, childrenFound, Found.entries_append,
      leaves_json mode (above ++ key) value, membersLeaves_json mode above rest]

end

mutual

theorem leaves_yaml (mode : KeyMode) (path : String) :
    (value : Yaml.Value) →
      YamlSecrets.leaves mode path value = ((ofYaml value).found mode path).entries
  | .string s => rfl
  | .number n => rfl
  | .bool b => rfl
  | .mapping pairs => by
    cases mode with
    | paths => exact pairsLeaves_yaml .paths (path ++ "/") pairs
    | verbatim => rfl
  | .null => rfl
  | .sequence items => rfl
  | .tagged tag value => rfl

theorem pairsLeaves_yaml (mode : KeyMode) (above : String) :
    (pairs : List (Yaml.Value × Yaml.Value)) →
      YamlSecrets.pairsLeaves mode above pairs =
        (childrenFound mode above (ofPairs pairs)).entries
  | [] => rfl
  | (key, value) :: rest => by
    rw [YamlSecrets.pairsLeaves, ofPairs]
    cases YamlSecrets.keyText key with
    | error fault => rfl
    | ok text =>
      rw [childrenFound, Found.entries_append, ← leaves_yaml mode (above ++ text) value,
        ← pairsLeaves_yaml mode above rest]
      rfl

end

end Tree

namespace Content

def tree : Content → Tree Content
  | json value => Tree.ofJson value
  | yaml value => Tree.ofYaml value

/-- The values at the top of a document, as the engine unwraps it. -/
def top (engine : Engine) : Content → Except Fault (List (Except Fault String × Tree Content))
  | json (.object members) =>
    match engine with
    | .sops => (JsonSecrets.unwrap members).map Tree.ofMembers
    | .file => .ok (Tree.ofMembers members)
  | yaml (.mapping pairs) =>
    match engine with
    | .sops => (YamlSecrets.unwrap pairs).map Tree.ofPairs
    | .file => .ok (Tree.ofPairs pairs)
  | json .null | yaml .null => .ok []
  | content => .error (.notKeyed content.format)

/-- The scalars of a document with their paths, or where looking for them stops. -/
def found (engine : Engine) (mode : KeyMode) (content : Content) : Found Content :=
  match content.top engine with
  | .ok children => Tree.childrenFound mode "" children
  | .error fault => .error (.fault fault)

theorem entries_eq_found (engine : Engine) (mode : KeyMode) (content : Content) :
    content.entries engine mode = (content.found engine mode).entries := by
  cases content with
  | json value =>
    cases value with
    | object members =>
      cases engine with
      | file => exact Tree.membersLeaves_json mode "" members
      | sops =>
        unfold entries JsonSecrets.ofValue found top
        dsimp only
        cases JsonSecrets.unwrap members with
        | error fault => rfl
        | ok own => exact Tree.membersLeaves_json mode "" own
    | _ => rfl
  | yaml value =>
    cases value with
    | mapping pairs =>
      cases engine with
      | file => exact Tree.pairsLeaves_yaml mode "" pairs
      | sops =>
        unfold entries YamlSecrets.ofValue found top
        dsimp only
        cases YamlSecrets.unwrap pairs with
        | error fault => rfl
        | ok own => exact Tree.pairsLeaves_yaml mode "" own
    | _ => rfl

end Content

end EnvInject.Document
