/-!
# Places in a YAML text

* `Mark`, `Cursor` : a place, counted in bytes, lines and columns, and what follows it;
* `isBlank`, `isBreak`, `isWordChar` : the character classes of the notation;
* `isMarker` : whether a line starts with `---` or `...`;
* `skipBreak`, `toToken` : moving on (`length_skipBreak_le`);
* `Fold` : text collected across lines, where a single line break counts as a space.
-/

namespace EnvInject.Yaml

/-- A place in a text; all counts start at 0. -/
structure Mark where
  /-- The number of bytes before it. -/
  offset : Nat := 0
  line : Nat := 0
  /-- The number of characters before it in its line. -/
  column : Nat := 0
  deriving DecidableEq, Repr

namespace Mark

def after (m : Mark) (c : Char) : Mark :=
  { m with offset := m.offset + c.utf8Size, column := m.column + 1 }

def afterAll (m : Mark) (cs : List Char) : Mark := cs.foldl after m

def newLine (m : Mark) (c : Char) : Mark :=
  { offset := m.offset + c.utf8Size, line := m.line + 1 }

/-- The place after a carriage return and the line feed that belongs to it. -/
def crlf (m : Mark) : Mark := (m.after '\r').newLine '\n'

end Mark

structure Cursor where
  mark : Mark
  rest : List Char

def Cursor.skip (c : Cursor) (n : Nat) : Cursor := ⟨c.mark.afterAll (c.rest.take n), c.rest.drop n⟩

/-! ## Character classes -/

def byteOrderMark : Char := Char.ofNat 0xFEFF

def nextLine : Char := Char.ofNat 0x85

def lineSeparator : Char := Char.ofNat 0x2028

def paragraphSeparator : Char := Char.ofNat 0x2029

def isBlank (c : Char) : Bool := c == ' ' || c == '\t'

def isBreak (c : Char) : Bool :=
  c == '\n' || c == '\r' || c == nextLine || c == lineSeparator || c == paragraphSeparator

/-- What a line break counts as: all but the two Unicode separators are line feeds. -/
def breakChar (c : Char) : Char :=
  if c == lineSeparator || c == paragraphSeparator then c else '\n'

/-- Whether a text is at a blank, a line break or its end. -/
def atGap : List Char → Bool
  | [] => true
  | c :: _ => isBlank c || isBreak c

def atLineEnd : List Char → Bool
  | [] => true
  | c :: _ => isBreak c

def isWordChar (c : Char) : Bool := c.isAlphanum || c == '_' || c == '-'

/-- Whether a text begins with `---` or `...`, followed by a gap. -/
def isMarker : List Char → Bool
  | a :: b :: c :: rest => (a == '-' || a == '.') && a == b && b == c && atGap rest
  | _ => false

def isAllowed (c : Char) : Bool :=
  let n := c.toNat
  n == 0x09 || n == 0x0A || n == 0x0D || (0x20 ≤ n && n ≤ 0x7E) || n == 0x85 ||
    (0xA0 ≤ n && n ≤ 0xD7FF) || (0xE000 ≤ n && n ≤ 0xFFFD) || 0x10000 ≤ n

/-! ## Moving on -/

/-- The longest run of characters with `p`, none of them a line break, and the cursor after it. -/
def takeRun (p : Char → Bool) (c : Cursor) : List Char × Cursor :=
  let run := c.rest.takeWhile p
  (run, c.skip run.length)

def skipBlanks (c : Cursor) : Cursor := (takeRun isBlank c).2

def skipBreak (c : Cursor) : Cursor :=
  match c.rest with
  | '\r' :: '\n' :: rest => ⟨c.mark.crlf, rest⟩
  | b :: rest => if isBreak b then ⟨c.mark.newLine b, rest⟩ else c
  | [] => c

theorem length_skipBreak_le (c : Cursor) : (skipBreak c).rest.length ≤ c.rest.length := by
  obtain ⟨m, cs⟩ := c
  unfold skipBreak
  split
  · simp_all only [List.length_cons]
    omega
  · split <;> simp_all
  · exact Nat.le_refl _

/-- The cursor at the start of the next line, if only blanks and a comment are left in this one. -/
def endLine? (c : Cursor) : Option Cursor :=
  let c := skipBlanks c
  let c := if c.rest.head? == some '#' then (takeRun (!isBreak ·) c).2 else c
  if atLineEnd c.rest then some (skipBreak c) else none

/-- The cursor at the next token, and whether a simple key may start there. Blanks, comments, line
breaks and a byte order mark at the start of a line are passed over; outside flow collections a new
line allows a simple key, and where one may start a tab is no blank. -/
def toToken (flow : Bool) : (comment keyAllowed : Bool) → Mark → List Char → Bool × Cursor
  | _, keyAllowed, m, '\r' :: '\n' :: rest =>
    toToken flow false (keyAllowed || !flow) m.crlf rest
  | comment, keyAllowed, m, c :: rest =>
    if isBreak c then toToken flow false (keyAllowed || !flow) (m.newLine c) rest
    else if comment || c == ' ' || (c == '\t' && (flow || !keyAllowed)) ||
        (c == byteOrderMark && m.column == 0) then
      toToken flow comment keyAllowed (m.after c) rest
    else if c == '#' then toToken flow true keyAllowed (m.after c) rest
    else (keyAllowed, ⟨m, c :: rest⟩)
  | _, keyAllowed, m, [] => (keyAllowed, ⟨m, []⟩)

/-! ## Folding -/

/-- Text collected so far, with the blanks or line breaks after it that may yet count. All lists
stand in reverse. -/
structure Fold where
  text : List Char := []
  blanks : List Char := []
  /-- Whether a line break came after the text. -/
  broken : Bool := false
  firstBreak : Option Char := none
  moreBreaks : List Char := []

namespace Fold

/-- Takes a blank: after a line break it is indentation. -/
def blank (f : Fold) (c : Char) : Fold := if f.broken then f else { f with blanks := c :: f.blanks }

def newLine (f : Fold) (c : Char) : Fold :=
  if f.broken then { f with moreBreaks := breakChar c :: f.moreBreaks }
  else { f with blanks := [], broken := true, firstBreak := some (breakChar c) }

/-- Adds what is pending to the text. A single line feed counts as a space; of several the first
does not count. -/
def settle (f : Fold) : Fold :=
  if f.broken then
    let text := match f.firstBreak with
      | some '\n' => if f.moreBreaks.isEmpty then ' ' :: f.text else f.moreBreaks ++ f.text
      | some c => f.moreBreaks ++ c :: f.text
      | none => f.moreBreaks ++ f.text
    { text }
  else { text := f.blanks ++ f.text }

def push (f : Fold) (c : Char) : Fold := { text := c :: f.settle.text }

/-- Takes a line break that was escaped: it counts as nothing. -/
def escapedBreak (f : Fold) : Fold := { text := f.settle.text, broken := true }

def result (f : Fold) : String := String.ofList f.text.reverse

end Fold

end EnvInject.Yaml
