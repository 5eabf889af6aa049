import EnvInject.Text.Digits
import EnvInject.Yaml.Cursor

/-!
# Scalars in a YAML text

* `plainScalar` : a scalar without quotes;
* `quotedScalar` : one between single or double quotes;
* `blockScalar` : one in the lines below a `|` or `>`.
-/

namespace EnvInject.Yaml

inductive Style where
  | plain
  | singleQuoted
  | doubleQuoted
  | literal
  | folded
  deriving DecidableEq, Repr

/-! ## Plain scalars -/

def isFlowIndicator (c : Char) : Bool :=
  c == ',' || c == '[' || c == ']' || c == '{' || c == '}'

/-- Whether a colon inside a flow collection is followed by what makes it ambiguous. -/
def isAmbiguousColon : List Char → Bool
  | ':' :: c :: _ => c == '?' || isFlowIndicator c
  | _ => false

def endsPlain (flow : Bool) : List Char → Bool
  | ':' :: rest => atGap rest
  | c :: _ => flow && isFlowIndicator c
  | [] => true

/-- Reads on in a plain scalar. `fresh` tells that a blank or line break came just before. -/
def plainScalar (flow : Bool) (indent : Int) (fold : Fold) (fresh : Bool) (m : Mark) :
    List Char → Option (Fold × Cursor)
  | [] => some (fold, ⟨m, []⟩)
  | '\r' :: '\n' :: rest => plainScalar flow indent (fold.newLine '\n') true m.crlf rest
  | c :: rest =>
    if isBreak c then plainScalar flow indent (fold.newLine c) true (m.newLine c) rest
    else if isBlank c then
      if fold.broken && m.column < indent && c == '\t' then none
      else plainScalar flow indent (fold.blank c) true (m.after c) rest
    else if fresh &&
        ((fold.broken && !flow && m.column < indent) || c == '#' ||
          (m.column == 0 && isMarker (c :: rest))) then some (fold, ⟨m, c :: rest⟩)
    else if flow && isAmbiguousColon (c :: rest) then none
    else if endsPlain flow (c :: rest) then some (fold, ⟨m, c :: rest⟩)
    else plainScalar flow indent (fold.push c) false (m.after c) rest

/-! ## Quoted scalars -/

/-- The value of the first `count` characters, if they are hexadecimal digits. -/
def hexNumber? : (count value : Nat) → List Char → Option Nat
  | 0, value, _ => some value
  | count + 1, value, c :: rest => do hexNumber? count (value * 16 + (← Digits.value? 16 c)) rest
  | _ + 1, _, [] => none

def escapeDigits? (c : Char) : Option Nat :=
  if c == 'x' then some 2 else if c == 'u' then some 4 else if c == 'U' then some 8 else none

def escapeChar? (c : Char) : Option Char :=
  match c with
  | '0' => some (Char.ofNat 0)
  | 'a' => some (Char.ofNat 7)
  | 'b' => some (Char.ofNat 8)
  | 't' | '\t' => some '\t'
  | 'n' => some '\n'
  | 'v' => some (Char.ofNat 0x0B)
  | 'f' => some (Char.ofNat 0x0C)
  | 'r' => some '\r'
  | 'e' => some (Char.ofNat 0x1B)
  | ' ' | '"' | '/' | '\\' => some c
  | 'N' => some nextLine
  | '_' => some (Char.ofNat 0xA0)
  | 'L' => some lineSeparator
  | 'P' => some paragraphSeparator
  | _ => none

/-- The character that an escape stands for, and how many characters follow its letter. -/
def escape? : List Char → Option (Char × Nat)
  | [] => none
  | c :: rest =>
    match escapeDigits? c with
    | some count => do
      let value ← hexNumber? count 0 rest
      if h : value.isValidChar then some (Char.ofNatAux value h, count) else none
    | none => (escapeChar? c).map (·, 0)

/-- Reads on in a quoted scalar, up to and including the closing quote. -/
def quotedScalar (single : Bool) (fold : Fold) (m : Mark) (cs : List Char) :
    Option (Fold × Cursor) :=
  match cs with
  | [] => none
  | '\r' :: '\n' :: rest => quotedScalar single (fold.newLine '\n') m.crlf rest
  | c :: rest =>
    if isBreak c then quotedScalar single (fold.newLine c) (m.newLine c) rest
    else if isBlank c then quotedScalar single (fold.blank c) (m.after c) rest
    else if m.column == 0 && isMarker (c :: rest) then none
    else if single then
      if c != '\'' then quotedScalar single (fold.push c) (m.after c) rest
      else if rest.head? == some '\'' then
        quotedScalar single (fold.push c) ((m.after c).after c) (rest.drop 1)
      else some (fold.settle, ⟨m.after c, rest⟩)
    else if c == '"' then some (fold.settle, ⟨m.after c, rest⟩)
    else if c != '\\' then quotedScalar single (fold.push c) (m.after c) rest
    else if !rest.isEmpty && atLineEnd rest then
      have : (skipBreak ⟨m.after c, rest⟩).rest.length ≤ rest.length := length_skipBreak_le _
      quotedScalar single fold.escapedBreak (skipBreak ⟨m.after c, rest⟩).mark
        (skipBreak ⟨m.after c, rest⟩).rest
    else
      match escape? rest with
      | none => none
      | some (e, digits) =>
        quotedScalar single (fold.push e) (m.afterAll (c :: rest.take (1 + digits)))
          (rest.drop (1 + digits))
termination_by cs.length
decreasing_by all_goals (simp only [List.length_drop, List.length_cons]; omega)

/-! ## Block scalars -/

/-- What happens to the line breaks at the end of a block scalar. -/
inductive Chomping where
  | clip
  | strip
  | keep
  deriving DecidableEq, Repr

/-- What follows the `|` or `>`: in either order the chomping and a digit that gives the
indentation, which is not 0. -/
def blockHeader? (c : Cursor) : Option (Chomping × Nat × Cursor) :=
  let chomping? (c : Cursor) : Chomping × Cursor :=
    match c.rest with
    | '+' :: _ => (.keep, c.skip 1)
    | '-' :: _ => (.strip, c.skip 1)
    | _ => (.clip, c)
  let indent? (c : Cursor) : Option (Nat × Cursor) :=
    match c.rest with
    | d :: _ =>
      if !d.isDigit then some (0, c)
      else if d == '0' then none
      else some (d.toNat - 48, c.skip 1)
    | [] => some (0, c)
  let (chomping, afterChomping) := chomping? c
  if chomping != .clip then (indent? afterChomping).map fun (n, c) => (chomping, n, c)
  else do
    let (n, c) ← indent? c
    let (chomping, c) := if n = 0 then (.clip, c) else chomping? c
    pure (chomping, n, c)

/-- Passes over indentation and empty lines. `indent` is 0 as long as it is not known; then all
spaces are indentation and the widest one is returned. A tab must not stand for indentation. -/
def blockGap (indent widest : Nat) (breaks : List Char) (m : Mark) :
    List Char → Option (Nat × List Char × Cursor)
  | [] => some (max widest m.column, breaks, ⟨m, []⟩)
  | '\r' :: '\n' :: rest =>
    blockGap indent (max widest m.column) ('\n' :: breaks) m.crlf rest
  | c :: rest =>
    let within := indent == 0 || m.column < indent
    if c == ' ' && within then blockGap indent widest breaks (m.after c) rest
    else if c == '\t' && within then none
    else if isBreak c then
      blockGap indent (max widest m.column) (breakChar c :: breaks) (m.newLine c) rest
    else some (max widest m.column, breaks, ⟨m, c :: rest⟩)

/-- The lines of a block scalar read so far; all lists stand in reverse. -/
structure BlockText where
  text : List Char := []
  /-- The break that ended the last line. -/
  lastBreak : List Char := []
  /-- The breaks of the empty lines after it. -/
  emptyLines : List Char := []
  /-- Whether the last line began with a blank. -/
  indented : Bool := false

/-- Takes the next line. In a folded scalar a line feed between two lines that do not begin with a
blank counts as a space, and as nothing if empty lines come between. -/
def BlockText.line (b : BlockText) (folded : Bool) (line lineBreak : List Char) : BlockText :=
  let startsBlank := (line.head?.map isBlank).getD false
  let joined :=
    if folded && b.lastBreak == ['\n'] && !b.indented && !startsBlank then
      if b.emptyLines.isEmpty then ' ' :: b.text else b.text
    else b.lastBreak ++ b.text
  { text := line.reverse ++ (b.emptyLines ++ joined)
    lastBreak := lineBreak
    indented := startsBlank }

def blockLines (folded : Bool) (indent : Nat) (b : BlockText) (c : Cursor) :
    (fuel : Nat) → Option (BlockText × Cursor)
  | 0 => some (b, c)
  | fuel + 1 =>
    if c.mark.column ≠ indent || c.rest.isEmpty then some (b, c)
    else do
      let (line, afterLine) := takeRun (!isBreak ·) c
      let lineBreak := (afterLine.rest.head?.map breakChar).toList
      let b := b.line folded line lineBreak
      let next := skipBreak afterLine
      let (_, empty, c) ← blockGap indent 0 [] next.mark next.rest
      blockLines folded indent { b with emptyLines := empty } c fuel

/-- Reads a block scalar after its indicator, inside a block collection indented by `outer`. -/
def blockScalar (folded : Bool) (outer : Int) (c : Cursor) : Option (String × Cursor) := do
  let (chomping, given, c) ← blockHeader? c
  let c ← endLine? c
  let known := if given = 0 then 0 else (max outer 0).toNat + given
  let (widest, empty, c) ← blockGap known 0 [] c.mark c.rest
  let indent := if known = 0 then max (max widest (outer + 1).toNat) 1 else known
  let (b, c) ← blockLines folded indent { emptyLines := empty } c (c.rest.length + 1)
  let text := match chomping with
    | .strip => b.text
    | .clip => b.lastBreak ++ b.text
    | .keep => b.emptyLines ++ (b.lastBreak ++ b.text)
  pure (String.ofList text.reverse, c)

end EnvInject.Yaml
