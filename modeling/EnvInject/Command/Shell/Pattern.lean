import EnvInject.File.Tree

/-!
# Shell patterns

In a pattern `*` stands for any text, `?` for any character, and brackets for one of several. A
quoted character stands for itself.

* `Pattern.ofMarked` : the pattern of characters of which some are quoted;
* `Pattern.accepts` : whether a text matches;
* `Pattern.cutFront`, `Pattern.cutBack` : a text without the part that matches at its front or back;
* `matchingPaths` : the paths in a file tree that match.
-/

namespace EnvInject.Shell

/-- Characters, with whether each is quoted. -/
abbrev Marked := List (Char × Bool)

def Marked.text (m : Marked) : String := String.ofList (m.map Prod.fst)

/-- Whether marked characters are a pattern of more than one text. -/
def Marked.isPattern (m : Marked) : Bool :=
  m.any fun (c, quoted) => !quoted && "*?[".toList.contains c

inductive Slot where
  | exactly (c : Char)
  | one
  | many
  /-- A character in one of the ranges, or in none of them. -/
  | range (negated : Bool) (ranges : List (Char × Char))

abbrev Pattern := List Slot

namespace Pattern

/-- The ranges up to the closing bracket, which may come first in the list. -/
def ranges? (first : Bool) : Marked → Option (List (Char × Char) × Marked)
  | [] => none
  | (']', false) :: rest => if first then more ']' rest else some ([], rest)
  | (c, _) :: rest => more c rest
where
  /-- The ranges from one that begins with `low`. -/
  more (low : Char) : Marked → Option (List (Char × Char) × Marked)
    | ('-', false) :: (']', false) :: rest => some ([(low, low), ('-', '-')], rest)
    | ('-', false) :: (high, _) :: rest => do
      let (ranges, rest) ← ranges? false rest
      pure ((low, high) :: ranges, rest)
    | rest => do
      let (ranges, rest) ← ranges? false rest
      pure ((low, low) :: ranges, rest)

def bracket? : Marked → Option (Slot × Marked)
  | ('!', false) :: rest | ('^', false) :: rest =>
    (ranges? true rest).map fun (ranges, rest) => (.range true ranges, rest)
  | rest => (ranges? true rest).map fun (ranges, rest) => (.range false ranges, rest)

/-- The pattern of marked characters. `fuel` bounds their number. -/
def ofMarkedWithin : (fuel : Nat) → Marked → Pattern
  | 0, _ | _, [] => []
  | fuel + 1, ('*', false) :: rest => .many :: ofMarkedWithin fuel rest
  | fuel + 1, ('?', false) :: rest => .one :: ofMarkedWithin fuel rest
  | fuel + 1, ('[', false) :: rest =>
    match bracket? rest with
    | some (slot, rest) => slot :: ofMarkedWithin fuel rest
    | none => .exactly '[' :: ofMarkedWithin fuel rest
  | fuel + 1, (c, _) :: rest => .exactly c :: ofMarkedWithin fuel rest

def ofMarked (m : Marked) : Pattern := ofMarkedWithin m.length m

def admits (c : Char) : Slot → Bool
  | .exactly c' => c == c'
  | .one | .many => true
  | .range negated ranges => negated != ranges.any fun (low, high) => low ≤ c && c ≤ high

def accepts : Pattern → List Char → Bool
  | [], cs => cs.isEmpty
  | .many :: rest, [] => accepts rest []
  | .many :: rest, c :: cs => accepts rest (c :: cs) || accepts (.many :: rest) cs
  | slot :: rest, c :: cs => admits c slot && accepts rest cs
  | _ :: _, [] => false
termination_by p cs => p.length + cs.length

/-- A text without the shortest or longest beginning that matches. -/
def cutFront (p : Pattern) (longest : Bool) (cs : List Char) : List Char :=
  let lengths := List.range (cs.length + 1)
  let lengths := if longest then lengths.reverse else lengths
  match lengths.find? fun n => p.accepts (cs.take n) with
  | some n => cs.drop n
  | none => cs

/-- A text without the shortest or longest end that matches. -/
def cutBack (p : Pattern) (longest : Bool) (cs : List Char) : List Char :=
  let lengths := List.range (cs.length + 1)
  let lengths := if longest then lengths else lengths.reverse
  match lengths.find? fun n => p.accepts (cs.drop n) with
  | some n => cs.take n
  | none => cs

end Pattern

/-! ## Paths -/

def namesAt (tree : FileTree) (place : Place) : List String :=
  let below := tree.nodes.filterMap fun (p, _) => match p.getLast? with
    | some name => if p.dropLast == place then some name else none
    | none => none
  below.mergeSort (· ≤ ·)

/-- The names in the directory at a path that match; those that begin with a point must be meant. -/
def matchingNames (tree : FileTree) (path : String) (part : Marked) : List String :=
  match tree.lookup (if path.isEmpty then "." else path) with
  | .ok (place, .directory) =>
    let pattern := Pattern.ofMarked part
    (namesAt tree place).filter fun name =>
      pattern.accepts name.toList &&
        (name.toList.head? != some '.' || (part.head?.map Prod.fst) == some '.')
  | _ => []

def matchingFrom (tree : FileTree) (path : String) : List Marked → List String
  | [] => []
  | [part] =>
    if part.isPattern then (matchingNames tree path part).map (path ++ ·)
    else if tree.pathExists (path ++ part.text) then [path ++ part.text] else []
  | part :: rest =>
    if part.isPattern then
      (matchingNames tree path part).flatMap fun name =>
        matchingFrom tree (path ++ name ++ "/") rest
    else matchingFrom tree (path ++ part.text ++ "/") rest

/-- The parts of a pattern between its slashes. -/
def Marked.parts (m : Marked) : List Marked :=
  m.foldr (fun c parts => match c, parts with
    | ('/', _), parts => [] :: parts
    | c, part :: parts => (c :: part) :: parts
    | c, [] => [[c]]) [[]]

def matchingPaths (tree : FileTree) (m : Marked) : List String := matchingFrom tree "" m.parts

end EnvInject.Shell
