import EnvInject.Yaml.Tag

/-!
# YAML tokens

The text of a YAML document is cut into tokens; indentation becomes tokens that open and close block
collections. That something is a key shows only at the colon after it, so a `key` token is put in
front of what came before.

* `Token` : the tokens;
* `Layout` : the tokens so far, the block and flow collections that are open, and the places where
  a key may have begun;
* `Layout.next?` : the layout after one more token of the text;
* `tokens?` : the tokens of a text, if it has any of its parts right.
-/

namespace EnvInject.Yaml

inductive Token where
  | directive (d : Directive)
  | documentStart
  | documentEnd
  | blockSequence
  | blockMapping
  | blockEnd
  | flowSequence
  | flowSequenceEnd
  | flowMapping
  | flowMappingEnd
  /-- The dash of an item of a block sequence. -/
  | item
  /-- The comma of a flow collection. -/
  | comma
  | key
  | value
  | alias (name : String)
  | anchor (name : String)
  | tag (handle : String) (suffix : Bytes)
  | scalar (style : Style) (text : String)

/-- A place where a key may have begun that no question mark announces. -/
structure KeyStart where
  /-- Whether a key must have begun there. -/
  required : Bool
  /-- The number of tokens before it. -/
  position : Nat
  mark : Mark

/-- The state of a text that is being cut. -/
structure Layout where
  /-- The tokens so far, in reverse. -/
  tokens : List Token := []
  count : Nat := 0
  /-- The indentation of the innermost block collection, and those of the ones around it. -/
  indent : Int := -1
  outer : List Int := []
  /-- Whether a key may begin at the next token. -/
  keyAllowed : Bool := true
  /-- Where a key may have begun: in the innermost flow collection, and in those around it. -/
  keyStart : Option KeyStart := none
  outerKeyStarts : List (Option KeyStart) := []

namespace Layout

def flow (l : Layout) : Bool := !l.outerKeyStarts.isEmpty

def push (l : Layout) (t : Token) : Layout :=
  { l with tokens := t :: l.tokens, count := l.count + 1 }

def insert (l : Layout) (position : Nat) (t : Token) : Layout :=
  let later := l.count - position
  { l with
    tokens := l.tokens.take later ++ t :: l.tokens.drop later
    count := l.count + 1 }

/-! ## Keys -/

def maxKeyBytes : Nat := 1024

/-- Gives up a place that is too far back, or in an earlier line, to begin a key ending at `m`. -/
def recheck (m : Mark) : Option KeyStart → Option (Option KeyStart)
  | none => some none
  | some k =>
    if k.mark.line < m.line ∨ k.mark.offset + maxKeyBytes < m.offset then
      if k.required then none else some none
    else some (some k)

def recheckAll (l : Layout) (m : Mark) : Option Layout := do
  let keyStart ← recheck m l.keyStart
  let outerKeyStarts ← l.outerKeyStarts.mapM (recheck m)
  pure { l with keyStart, outerKeyStarts }

/-- No key began in the innermost collection. -/
def dropKeyStart (l : Layout) : Option Layout :=
  match l.keyStart with
  | some k => if k.required then none else some { l with keyStart := none }
  | none => some l

def setKeyStart (l : Layout) (m : Mark) : Option Layout :=
  if l.keyAllowed then do
    let l ← l.dropKeyStart
    let required := !l.flow && l.indent == m.column
    pure { l with keyStart := some { required, position := l.count, mark := m } }
  else some l

/-! ## Indentation -/

/-- Opens a block collection after the first `position` tokens, if `column` is further in than the
innermost one. -/
def openBlock (l : Layout) (column : Nat) (position : Nat) (t : Token) : Layout :=
  if !l.flow && l.indent < column then
    { l.insert position t with indent := column, outer := l.indent :: l.outer }
  else l

/-- The block collections left open at `column`, and the number of those that end. -/
def closing (column : Int) : Int → List Int → Nat × Int × List Int
  | indent, [] => (0, indent, [])
  | indent, next :: outer =>
    if column < indent then
      let (ends, left) := closing column next outer
      (ends + 1, left)
    else (0, indent, next :: outer)

def closeBlocks (l : Layout) (column : Int) : Layout :=
  if l.flow then l
  else
    let (ends, indent, outer) := closing column l.indent l.outer
    { l with
      tokens := List.replicate ends .blockEnd ++ l.tokens
      count := l.count + ends
      indent, outer }

/-! ## Tokens with a character of their own -/

def openFlow (l : Layout) (t : Token) (m : Mark) : Option Layout := do
  let l ← l.setKeyStart m
  pure { l.push t with
    keyAllowed := true, keyStart := none, outerKeyStarts := l.keyStart :: l.outerKeyStarts }

def closeFlow (l : Layout) (t : Token) : Option Layout := do
  let l ← l.dropKeyStart
  let (keyStart, outerKeyStarts) := match l.outerKeyStarts with
    | k :: ks => (k, ks)
    | [] => (none, [])
  pure { l.push t with keyAllowed := false, keyStart, outerKeyStarts }

def comma (l : Layout) : Option Layout := do
  let l ← l.dropKeyStart
  pure { l.push .comma with keyAllowed := true }

/-- Opens a block collection at a sign that may stand only where a key may begin. -/
def openBlockAt (l : Layout) (column : Nat) (t : Token) : Option Layout :=
  if l.flow then some l
  else if l.keyAllowed then some (l.openBlock column l.count t)
  else none

def dash (l : Layout) (column : Nat) : Option Layout := do
  let l ← (← l.openBlockAt column .blockSequence).dropKeyStart
  pure { l.push .item with keyAllowed := true }

def questionMark (l : Layout) (column : Nat) : Option Layout := do
  let l ← (← l.openBlockAt column .blockMapping).dropKeyStart
  pure { l.push .key with keyAllowed := !l.flow }

def colon (l : Layout) (column : Nat) : Option Layout :=
  match l.keyStart with
  | some k =>
    let opened := (l.insert k.position .key).openBlock k.mark.column k.position .blockMapping
    some { opened.push .value with keyStart := none, keyAllowed := false }
  | none => do
    let l ← l.openBlockAt column .blockMapping
    pure { l.push .value with keyAllowed := !l.flow }

/-! ## Tokens of several characters -/

/-- A marker between documents, or a directive. -/
def atLineStart (l : Layout) (t : Token) : Option Layout := do
  let l ← (l.closeBlocks (-1)).dropKeyStart
  pure { l.push t with keyAllowed := false }

def mayEndName (rest : List Char) : Bool :=
  atGap rest || atChar ("?:,]\x7d%@\x60".toList.contains ·) rest

def name? (c : Cursor) : Option (String × Cursor) :=
  let (name, after) := takeRun isWordChar c
  if name.isEmpty || !mayEndName after.rest then none else some (String.ofList name, after)

/-- A node's own part: an alias, an anchor, a tag or a scalar on one line. -/
def nodePart (l : Layout) (m : Mark) (t : Token) : Option Layout := do
  let l ← l.setKeyStart m
  pure { l.push t with keyAllowed := false }

def quoted? (l : Layout) (style : Style) (c : Cursor) : Option (Layout × Cursor) := do
  let inside := c.skip 1
  let (fold, after) ← quotedScalar (style == .singleQuoted) {} inside.mark inside.rest
  pure (← l.nodePart c.mark (.scalar style fold.result), after)

/-- A scalar without quotes. A key may begin after it if it ended with its line. -/
def plain? (l : Layout) (c : Cursor) : Option (Layout × Cursor) := do
  let (fold, after) ← plainScalar l.flow (l.indent + 1) {} true c.mark c.rest
  let next ← l.nodePart c.mark (.scalar .plain fold.result)
  pure ({ next with keyAllowed := fold.broken }, after)

def block? (l : Layout) (style : Style) (c : Cursor) : Option (Layout × Cursor) := do
  let l ← l.dropKeyStart
  let (text, after) ← blockScalar (style == .folded) l.indent (c.skip 1)
  pure ({ l.push (.scalar style text) with keyAllowed := true }, after)

def startsPlain (c : Char) : Bool :=
  !isBlank c && !isBreak c && !"-?:,[]\x7b\x7d#&*!|>'\"%@\x60".toList.contains c

/-! ## The next token -/

def signed? (l : Layout) (c : Cursor) (sign : Char) (rest : List Char) :
    Option (Layout × Cursor) := do
  let one (l : Layout) : Layout × Cursor := (l, c.skip 1)
  match sign with
  | '[' => return one (← l.openFlow .flowSequence c.mark)
  | '{' => return one (← l.openFlow .flowMapping c.mark)
  | ']' => return one (← l.closeFlow .flowSequenceEnd)
  | '}' => return one (← l.closeFlow .flowMappingEnd)
  | ',' => return one (← l.comma)
  | '-' => if atGap rest then return one (← l.dash c.mark.column) else l.plain? c
  | '?' =>
    if l.flow || atGap rest then return one (← l.questionMark c.mark.column) else l.plain? c
  | ':' => if l.flow || atGap rest then return one (← l.colon c.mark.column) else l.plain? c
  | '*' =>
    let (name, after) ← name? (c.skip 1)
    return (← l.nodePart c.mark (.alias name), after)
  | '&' =>
    let (name, after) ← name? (c.skip 1)
    return (← l.nodePart c.mark (.anchor name), after)
  | '!' =>
    let (handle, suffix, after) ← Tag.read? l.flow c
    return (← l.nodePart c.mark (.tag handle suffix), after)
  | '\'' => l.quoted? .singleQuoted c
  | '"' => l.quoted? .doubleQuoted c
  | '|' => if l.flow then none else l.block? .literal c
  | '>' => if l.flow then none else l.block? .folded c
  | _ => if startsPlain sign then l.plain? c else none

/-- Takes the token at the cursor, which stands at no blank. -/
def next? (l : Layout) (c : Cursor) : Option (Layout × Cursor) := do
  let l := (← l.recheckAll c.mark).closeBlocks c.mark.column
  match c.rest with
  | [] => none
  | sign :: rest =>
    if c.mark.column = 0 ∧ sign = '%' then
      let (d, after) ← directive? c
      return (← l.atLineStart (.directive d), after)
    else if c.mark.column = 0 ∧ isMarker c.rest then
      let marker := if sign = '-' then Token.documentStart else .documentEnd
      return (← l.atLineStart marker, c.skip 3)
    else l.signed? c sign rest

def finish? (l : Layout) (m : Mark) : Option (List Token) := do
  let l ← (← l.recheckAll m).closeBlocks (-1) |>.dropKeyStart
  pure l.tokens.reverse

/-- Takes all tokens from a place on. `fuel` bounds their number. -/
def run : (fuel : Nat) → Layout → Cursor → Option (List Token)
  | 0, _, _ => none
  | fuel + 1, l, c => do
    let (keyAllowed, c) := toToken l.flow false l.keyAllowed c.mark c.rest
    let l := { l with keyAllowed }
    if c.rest.isEmpty then l.finish? c.mark
    else
      let (l, c) ← l.next? c
      run fuel l c

end Layout

def tokens? (s : String) : Option (List Token) :=
  let cs := s.toList
  if cs.all isAllowed then Layout.run (cs.length + 1) {} ⟨{}, cs⟩ else none

end EnvInject.Yaml
