import EnvInject.Command.Outcome
import EnvInject.File.Tree

/-!
# Conditions

The command `test`, also written between brackets, tells by its exit code whether a condition on
texts, numbers or files holds.

* `Condition` : the conditions;
* `Condition.read` : the condition that arguments make up;
* `Condition.holds` : whether a condition holds;
* `Condition.test`, `Condition.bracket` : the two forms of the command.
-/

namespace EnvInject

inductive Condition where
  /-- The text is not empty. -/
  | text (s : String)
  /-- A file or a text has the property that a sign stands for. -/
  | property (sign s : String)
  /-- Two texts or numbers stand in the relation that a sign stands for. -/
  | relation (a sign b : String)
  | negated (c : Condition)
  | both (c d : Condition)
  | either (c d : Condition)
  deriving DecidableEq, Repr

namespace Condition

/-! ## Reading -/

def propertySigns : List String :=
  ["-n", "-z", "-e", "-f", "-d", "-r", "-w", "-x", "-s", "-h", "-L", "-p", "-t"]

def relationSigns : List String :=
  ["=", "!=", "<", ">", "-eq", "-ne", "-lt", "-le", "-gt", "-ge"]

def isRelation (arg : String) : Bool := relationSigns.contains arg

/-- Whether an argument with others after it is the sign of a property, and not a text that happens
to look like one. -/
def isProperty (arg : String) : List String → Bool
  | [] => false
  | [_] => propertySigns.contains arg
  | next :: _ => propertySigns.contains arg && !isRelation next

/-- What does not hold because nothing is said. -/
def nothing : Condition := .text ""

def readSimple : List String → Except String (Condition × List String)
  | [] => .ok (nothing, [])
  | arg :: rest =>
    match isProperty arg rest, rest with
    | true, s :: rest => .ok (.property arg s, rest)
    | _, sign :: b :: rest =>
      .ok (if isRelation sign then (.relation arg sign b, rest) else (.text arg, sign :: b :: rest))
    | _, [sign] =>
      if isRelation sign then .error s!"{sign}: argument expected" else .ok (.text arg, [sign])
    | _, [] => .ok (.text arg, [])

/-- What holds if the first condition holds, joined to one that follows after a sign. -/
def joinAfter (sign : String) (join : Condition → Condition → Condition)
    (more : List String → Except String (Condition × List String)) (c : Condition)
    (rest : List String) : Except String (Condition × List String) :=
  if rest.head? == some sign then do
    let (d, rest) ← more (rest.drop 1)
    pure (join c d, rest)
  else .ok (c, rest)

mutual

def readEither : (fuel : Nat) → List String → Except String (Condition × List String)
  | 0, args => .ok (nothing, args)
  | fuel + 1, args => do
    let (c, rest) ← readBoth fuel args
    joinAfter "-o" .either (readEither fuel) c rest

def readBoth : (fuel : Nat) → List String → Except String (Condition × List String)
  | 0, args => .ok (nothing, args)
  | fuel + 1, args => do
    let (c, rest) ← readOne fuel args
    joinAfter "-a" .both (readBoth fuel) c rest

/-- Reads one condition, perhaps negated or in parentheses. -/
def readOne : (fuel : Nat) → List String → Except String (Condition × List String)
  | 0, args => .ok (nothing, args)
  | fuel + 1, args =>
    match args with
    | "!" :: rest => do
      let (c, rest) ← readOne fuel rest
      pure (.negated c, rest)
    | "(" :: ")" :: rest => .ok (nothing, rest)
    | "(" :: s :: rest => do
      match ← readEither fuel (s :: rest) with
      | (c, ")" :: rest) => pure (c, rest)
      | _ => throw "closing paren expected"
    | args => readSimple args

end

def readAll (args : List String) : Except String Condition := do
  match ← readEither (3 * args.length + 3) args with
  | (c, []) => pure c
  | (_, rest) =>
    let consumed := args.take (args.length - rest.length)
    throw (consumed.getLastD "" ++ ": unexpected operator")

/-- Reads a condition. Up to four arguments are read for what they are most likely to mean. -/
def read (args : List String) : Except String Condition :=
  match args with
  | [] => .ok nothing
  | [a, sign, b] =>
    if isRelation sign then .ok (.relation a sign b)
    else if a == "(" && b == ")" then readAll [sign]
    else if a == "!" then (readAll [sign, b]).map .negated
    else readAll args
  | [a, b, c, d] =>
    if a == "(" && d == ")" then readAll [b, c]
    else if a == "!" then
      if isRelation c then .ok (.negated (.relation b c d)) else (readAll [b, c, d]).map .negated
    else readAll args
  | args => readAll args

/-! ## Meaning -/

def integer (s : String) : Except String Int :=
  let isBlank (c : Char) : Bool := c == ' ' || c == '\t' || c == '\n'
  let cs := ((s.toList.dropWhile isBlank).reverse.dropWhile isBlank).reverse
  let digits := match cs with
    | '+' :: '-' :: _ => cs
    | '+' :: digits => digits
    | cs => cs
  match (String.ofList digits).toInt? with
  | some n => .ok n
  | none => .error s!"Illegal number: {s}"

def hasProperty (tree : FileTree) (sign s : String) : Bool :=
  match sign with
  | "-n" => !s.isEmpty
  | "-z" => s.isEmpty
  | "-e" | "-w" => tree.pathExists s
  | "-r" => (tree.read s).toBool || tree.isDirectory s
  | "-f" => tree.isFile s
  | "-d" => tree.isDirectory s
  | "-x" => tree.isExecutable s || tree.isDirectory s
  | "-s" =>
    match tree.read s with
    | .ok content => !content.isEmpty
    | .error _ => tree.isDirectory s
  | _ => false

def areRelated (a sign b : String) : Except String Bool := do
  match sign with
  | "=" => pure (a == b)
  | "!=" => pure (a != b)
  | "<" => pure (a < b)
  | ">" => pure (b < a)
  | "-eq" => pure ((← integer a) == (← integer b))
  | "-ne" => pure ((← integer a) != (← integer b))
  | "-lt" => pure ((← integer a) < (← integer b))
  | "-le" => pure ((← integer a) ≤ (← integer b))
  | "-gt" => pure ((← integer b) < (← integer a))
  | _ => pure ((← integer b) ≤ (← integer a))

/-- Whether a condition holds; the error is a complaint about a number. -/
def holds (tree : FileTree) : Condition → Except String Bool
  | .text s => .ok !s.isEmpty
  | .property sign s => .ok (hasProperty tree sign s)
  | .relation a sign b => areRelated a sign b
  | .negated c => (c.holds tree).map (!·)
  | .both c d => do
    let first ← c.holds tree
    let second ← d.holds tree
    pure (first && second)
  | .either c d => do
    let first ← c.holds tree
    let second ← d.holds tree
    pure (first || second)

/-! ## The commands -/

def test (tree : FileTree) (name : String) (args : List String) : Outcome :=
  match read args >>= holds tree with
  | .ok true => .exits 0
  | .ok false => .exits 1
  | .error complaint => .fails 2 (name ++ ": " ++ complaint)

def bracket (tree : FileTree) (name : String) (args : List String) : Outcome :=
  if args.getLast? = some "]" then test tree name args.dropLast
  else .fails 2 (name ++ ": missing ]")

end Condition

end EnvInject
