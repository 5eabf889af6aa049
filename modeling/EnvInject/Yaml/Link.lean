import EnvInject.Yaml.Node

/-!
# Anchors and aliases

An anchor gets as its number how many anchor names came before it; an alias means the number that
its name has at that place. The number of a name that is used again may be given once more, to the
next new name; then all aliases of that number mean the later node.

* `Node.link?` : a node with numbers in place of names, if each alias has an anchor before it;
* `Linked.target?` : the node that an alias means;
* `Node.events` : how many parts a node has.
-/

namespace EnvInject.Yaml

abbrev NumberedNode := Node Nat

namespace Node

/-! ## Numbering -/

/-- The anchor names so far with their numbers, later ones first. -/
structure AnchorNames where
  numbers : List (String × Nat) := []
  /-- How many different names there are. -/
  count : Nat := 0

def AnchorNames.add (names : AnchorNames) (name : String) : AnchorNames :=
  { numbers := (name, names.count) :: names.numbers
    count := if (names.numbers.lookup name).isSome then names.count else names.count + 1 }

/-- A step of numbering, which fails at an alias without an anchor before it. -/
abbrev Numbering := StateT AnchorNames Option

def numberAnchor : Option String → Numbering (Option Nat)
  | none => pure none
  | some name => do
    let names ← get
    set (names.add name)
    pure (some names.count)

mutual

def number : WrittenNode → Numbering NumberedNode
  | .alias name => do
    match (← get).numbers.lookup name with
    | some id => pure (.alias id)
    | none => failure
  | .scalar anchor tag plain text => do
    let anchor ← numberAnchor anchor
    pure (.scalar anchor tag plain text)
  | .sequence anchor tag items => do
    let anchor ← numberAnchor anchor
    let items ← numberItems items
    pure (.sequence anchor tag items)
  | .mapping anchor tag pairs => do
    let anchor ← numberAnchor anchor
    let pairs ← numberPairs pairs
    pure (.mapping anchor tag pairs)

def numberItems : List WrittenNode → Numbering (List NumberedNode)
  | [] => pure []
  | item :: rest => do
    let item ← number item
    let rest ← numberItems rest
    pure (item :: rest)

def numberPairs : List (WrittenNode × WrittenNode) → Numbering (List (NumberedNode × NumberedNode))
  | [] => pure []
  | (key, value) :: rest => do
    let key ← number key
    let value ← number value
    let rest ← numberPairs rest
    pure ((key, value) :: rest)

end

/-! ## Anchored nodes -/

def anchoredAt (node : NumberedNode) : Option Nat → List (Nat × NumberedNode)
  | some id => [(id, node)]
  | none => []

mutual

/-- The anchored nodes within a node by their numbers, outer ones first. -/
def anchored : NumberedNode → List (Nat × NumberedNode)
  | .alias _ => []
  | .scalar anchor tag plain text => anchoredAt (.scalar anchor tag plain text) anchor
  | .sequence anchor tag items =>
    anchoredAt (.sequence anchor tag items) anchor ++ anchoredItems items
  | .mapping anchor tag pairs =>
    anchoredAt (.mapping anchor tag pairs) anchor ++ anchoredPairs pairs

def anchoredItems : List NumberedNode → List (Nat × NumberedNode)
  | [] => []
  | item :: rest => anchored item ++ anchoredItems rest

def anchoredPairs : List (NumberedNode × NumberedNode) → List (Nat × NumberedNode)
  | [] => []
  | (key, value) :: rest => anchored key ++ (anchored value ++ anchoredPairs rest)

end

/-! ## Size -/

mutual

/-- How many parts a node has: a collection counts at its start and at its end. -/
def events {Name : Type} : Node Name → Nat
  | .alias _ => 1
  | .scalar _ _ _ _ => 1
  | .sequence _ _ items => eventsOfItems items + 2
  | .mapping _ _ pairs => eventsOfPairs pairs + 2

def eventsOfItems {Name : Type} : List (Node Name) → Nat
  | [] => 0
  | item :: rest => events item + eventsOfItems rest

def eventsOfPairs {Name : Type} : List (Node Name × Node Name) → Nat
  | [] => 0
  | (key, value) :: rest => events key + events value + eventsOfPairs rest

end

end Node

/-! ## Linked nodes -/

/-- A node, and the anchored nodes in it by their numbers, later ones first. -/
structure Linked where
  root : NumberedNode
  targets : List (Nat × NumberedNode)

def Linked.target? (l : Linked) (id : Nat) : Option NumberedNode := l.targets.lookup id

def Node.link? (node : WrittenNode) : Option Linked :=
  (Node.number node {}).map fun (root, _) => { root, targets := root.anchored.reverse }

end EnvInject.Yaml
