import EnvInject.Yaml.Token

/-!
# YAML nodes

What the tokens of a text say: nested nodes, with their anchors and tags as they are written.

* `Node` : scalars, sequences, mappings and aliases;
* `Grammar.node?` : the node at the front of a token sequence;
* `Node.read?` : the node of a text; a text without content has none.
-/

namespace EnvInject.Yaml

/-- A node. `Name` is what anchors and aliases are named by. -/
inductive Node (Name : Type) where
  | alias (name : Name)
  | scalar (anchor : Option Name) (tag : Option Bytes) (plain : Bool) (text : String)
  | sequence (anchor : Option Name) (tag : Option Bytes) (items : List (Node Name))
  | mapping (anchor : Option Name) (tag : Option Bytes) (pairs : List (Node Name × Node Name))

abbrev WrittenNode := Node String

/-- What stands where a node is left out. -/
def Node.empty : WrittenNode := .scalar none none true ""

/-! ## Properties of nodes -/

abbrev TagTable := List (String × Bytes)

def defaultTags : TagTable :=
  [("!", Utf8.encode "!"), ("!!", Utf8.encode "tag:yaml.org,2002:")]

structure Properties where
  anchor : Option String := none
  tag : Option Bytes := none

def TagTable.tag? (table : TagTable) (handle : String) (suffix : Bytes) : Option Bytes :=
  if handle.isEmpty then some suffix else (table.lookup handle).map (· ++ suffix)

/-- Reads the properties in front of a node, in either order. -/
def properties? (table : TagTable) : List Token → Option (Properties × List Token)
  | .anchor name :: .tag handle suffix :: rest | .tag handle suffix :: .anchor name :: rest => do
    let tag ← table.tag? handle suffix
    pure ({ anchor := some name, tag := some tag }, rest)
  | .anchor name :: rest => some ({ anchor := some name }, rest)
  | .tag handle suffix :: rest => do
    let tag ← table.tag? handle suffix
    pure ({ tag := some tag }, rest)
  | rest => some ({}, rest)

/-! ## Where nodes are left out -/

/-- Where an item of a block sequence, or of a block sequence that is not indented, is empty. -/
def endsItem (indented : Bool) : List Token → Bool
  | .item :: _ | .blockEnd :: _ => true
  | .key :: _ | .value :: _ => !indented
  | _ => false

/-- Where a key or a value of a block mapping is empty. -/
def endsEntry : List Token → Bool
  | .key :: _ | .value :: _ | .blockEnd :: _ => true
  | _ => false

/-- Where a value in a flow sequence is empty. -/
def endsFlowItem : List Token → Bool
  | .comma :: _ | .flowSequenceEnd :: _ => true
  | _ => false

/-- Where a value in a flow mapping is empty. -/
def endsFlowEntry : List Token → Bool
  | .comma :: _ | .flowMappingEnd :: _ => true
  | _ => false

def atValue : List Token → Bool
  | .value :: _ => true
  | _ => false

/-- The tokens after the comma that must stand between parts of a flow collection, unless the
first part or the end `close` comes next. -/
def afterComma? (first : Bool) (atEnd : List Token → Bool) (ts : List Token) :
    Option (List Token) :=
  if first || atEnd ts then some ts
  else match ts with
    | .comma :: rest => some rest
    | _ => none

/-! ## Collections -/

/-- Where a node stands: in a flow collection, in a block collection, or as a key or value of a
block mapping, where a block sequence need not be indented. -/
inductive Place where
  | flow
  | block
  | entry
  deriving DecidableEq

namespace Grammar

mutual

def node? (table : TagTable) (place : Place) :
    (fuel : Nat) → List Token → Option (WrittenNode × List Token)
  | 0, _ => none
  | _ + 1, .alias name :: rest => some (.alias name, rest)
  | fuel + 1, ts => do
    let (p, ts) ← properties? table ts
    match ts with
    | .scalar style text :: rest => pure (.scalar p.anchor p.tag (style == .plain) text, rest)
    | .flowSequence :: rest =>
      let (items, rest) ← flowItems? table true fuel rest
      pure (.sequence p.anchor p.tag items, rest)
    | .flowMapping :: rest =>
      let (pairs, rest) ← flowPairs? table true fuel rest
      pure (.mapping p.anchor p.tag pairs, rest)
    | .item :: _ =>
      if place = .entry then
        let (items, rest) ← blockItems? table false fuel ts
        pure (.sequence p.anchor p.tag items, rest)
      else leftOut p ts
    | .blockSequence :: rest =>
      if place = .flow then leftOut p ts
      else
        let (items, rest) ← blockItems? table true fuel rest
        pure (.sequence p.anchor p.tag items, rest)
    | .blockMapping :: rest =>
      if place = .flow then leftOut p ts
      else
        let (pairs, rest) ← blockPairs? table fuel rest
        pure (.mapping p.anchor p.tag pairs, rest)
    | _ => leftOut p ts
where
  /-- A node with properties may lack content. -/
  leftOut (p : Properties) (ts : List Token) : Option (WrittenNode × List Token) :=
    if p.anchor.isSome || p.tag.isSome then some (.scalar p.anchor p.tag true "", ts) else none

/-- Reads a node, or an empty one where it is left out. -/
def nodeOrEmpty? (table : TagTable) (place : Place) (isLeftOut : Bool) :
    (fuel : Nat) → List Token → Option (WrittenNode × List Token)
  | 0, _ => none
  | fuel + 1, ts =>
    if isLeftOut then some (Node.empty, ts) else node? table place fuel ts

/-- Reads the items of a block sequence and, if it is indented, its end. -/
def blockItems? (table : TagTable) (indented : Bool) :
    (fuel : Nat) → List Token → Option (List WrittenNode × List Token)
  | 0, _ => none
  | fuel + 1, .item :: rest => do
    let (item, rest) ← nodeOrEmpty? table .block (endsItem indented rest) fuel rest
    let (items, rest) ← blockItems? table indented fuel rest
    pure (item :: items, rest)
  | _ + 1, .blockEnd :: rest => some ([], if indented then rest else .blockEnd :: rest)
  | _ + 1, rest => if indented then none else some ([], rest)

def blockPairs? (table : TagTable) :
    (fuel : Nat) → List Token → Option (List (WrittenNode × WrittenNode) × List Token)
  | 0, _ => none
  | fuel + 1, .key :: rest => do
    let (key, rest) ← nodeOrEmpty? table .entry (endsEntry rest) fuel rest
    let (value, rest) ← match rest with
      | .value :: rest => nodeOrEmpty? table .entry (endsEntry rest) fuel rest
      | rest => some (Node.empty, rest)
    let (pairs, rest) ← blockPairs? table fuel rest
    pure ((key, value) :: pairs, rest)
  | _ + 1, .blockEnd :: rest => some ([], rest)
  | _ + 1, _ => none

/-- Reads the items of a flow sequence and its end. A key makes an item a mapping of one pair; where
the key is left out, the token that shows it is passed over. -/
def flowItems? (table : TagTable) (first : Bool) :
    (fuel : Nat) → List Token → Option (List WrittenNode × List Token)
  | 0, _ => none
  | fuel + 1, ts => do
    match ← afterComma? first endsFlowSequence ts with
    | .flowSequenceEnd :: rest => pure ([], rest)
    | .key :: rest =>
      let isLeftOut := endsFlowItem rest || atValue rest
      let (key, rest) ←
        nodeOrEmpty? table .flow isLeftOut fuel (if isLeftOut then rest.drop 1 else rest)
      let (value, rest) ← match rest with
        | .value :: rest => nodeOrEmpty? table .flow (endsFlowItem rest) fuel rest
        | rest => some (Node.empty, rest)
      let (items, rest) ← flowItems? table false fuel rest
      pure (.mapping none none [(key, value)] :: items, rest)
    | ts =>
      let (item, rest) ← node? table .flow fuel ts
      let (items, rest) ← flowItems? table false fuel rest
      pure (item :: items, rest)
where
  /-- Whether a flow sequence ends here. -/
  endsFlowSequence : List Token → Bool
    | .flowSequenceEnd :: _ => true
    | _ => false

/-- Reads the pairs of a flow mapping and its end. A key without a colon has an empty value. -/
def flowPairs? (table : TagTable) (first : Bool) :
    (fuel : Nat) → List Token → Option (List (WrittenNode × WrittenNode) × List Token)
  | 0, _ => none
  | fuel + 1, ts => do
    match ← afterComma? first endsFlowMapping ts with
    | .flowMappingEnd :: rest => pure ([], rest)
    | .key :: rest =>
      let (key, rest) ←
        nodeOrEmpty? table .flow (endsFlowEntry rest || atValue rest) fuel rest
      let (value, rest) ← match rest with
        | .value :: rest => nodeOrEmpty? table .flow (endsFlowEntry rest) fuel rest
        | rest => some (Node.empty, rest)
      let (pairs, rest) ← flowPairs? table false fuel rest
      pure ((key, value) :: pairs, rest)
    | ts =>
      let (key, rest) ← node? table .flow fuel ts
      let (pairs, rest) ← flowPairs? table false fuel rest
      pure ((key, Node.empty) :: pairs, rest)
where
  /-- Whether a flow mapping ends here. -/
  endsFlowMapping : List Token → Bool
    | .flowMappingEnd :: _ => true
    | _ => false

end

end Grammar

/-! ## Documents -/

structure Directives where
  versioned : Bool := false
  tags : TagTable := []

/-- Takes a directive: none may be repeated, and only two versions are known. -/
def Directives.add (d : Directives) : Directive → Option Directives
  | .version major minor =>
    if !d.versioned && major == 1 && (minor == 1 || minor == 2) then
      some { d with versioned := true }
    else none
  | .tag handle stem =>
    if d.tags.any (·.1 == handle) then none
    else some { d with tags := d.tags ++ [(handle, stem)] }

def directives? (d : Directives) : List Token → Option (Directives × List Token)
  | .directive next :: rest => do directives? (← d.add next) rest
  | rest => some (d, rest)

/-- Whether only markers are left, so that no other document follows. -/
def isDone : List Token → Bool
  | [] => true
  | .documentEnd :: rest => isDone rest
  | _ => false

def isContentless : List Token → Bool
  | [] | .directive _ :: _ | .documentStart :: _ | .documentEnd :: _ => true
  | _ => false

/-- The node of a token sequence that makes up one document; the content of a document may be left
out after the marker at its start. -/
def Grammar.document? (ts : List Token) : Option WrittenNode := do
  let (d, afterDirectives) ← directives? {} ts
  let table := d.tags ++ defaultTags
  let fuel := 4 * ts.length + 4
  let (node, rest) ←
    match ts, afterDirectives with
    | _, .documentStart :: rest => nodeOrEmpty? table .block (isContentless rest) fuel rest
    | .directive _ :: _, _ => none
    | _, ts => node? table .block fuel ts
  if isDone rest then pure node else none

/-- The node of a text, `some none` if there is nothing in it. -/
def Node.read? (s : String) : Option (Option WrittenNode) :=
  match tokens? s with
  | none => none
  | some [] => some none
  | some ts => (Grammar.document? ts).map some

end EnvInject.Yaml
