import EnvInject.Command.Shell.Pattern

/-!
# Fields of expanded words

A word with its parameters expanded is cut into fields: where a separator stands in what came out of
a parameter without quotes, and between the arguments. A field that is a pattern stands for the
paths that match it.

* `Piece` : a part of an expanded word;
* `textOf`, `markedOf` : the word as one text;
* `fieldsOf` : the fields of the word.
-/

namespace EnvInject.Shell

inductive Piece where
  /-- A character; a loose one came out of a parameter without quotes. -/
  | char (c : Char) (quoted loose : Bool)
  /-- Something that makes a field of nothing at all. -/
  | quote
  /-- Between two arguments. -/
  | boundary
  deriving DecidableEq, Repr

def piecesOf (quoted : Bool) (s : String) : List Piece :=
  let chars := s.toList.map (Piece.char · quoted !quoted)
  if quoted then .quote :: chars else chars

/-- An unquoted part of a word within a parameter is as loose as a value. -/
def Piece.loosen : Piece → Piece
  | char c false _ => char c false true
  | p => p

/-- A word as one text, in which some characters are quoted. -/
def markedOf (ps : List Piece) : Marked :=
  ps.filterMap fun
    | .char c quoted _ => some (c, quoted)
    | .boundary => some (' ', true)
    | .quote => none

def textOf (ps : List Piece) : String := (markedOf ps).text

structure Separators where
  chars : List Char

/-- Whether a separator is a blank, of which several count as one. -/
def Separators.isBlank (s : Separators) (c : Char) : Bool :=
  (c == ' ' || c == '\t' || c == '\n') && s.chars.contains c

/-- The fields so far and the one that is not complete, all in reverse. -/
structure Cutting where
  complete : List Marked := []
  current : Option Marked := none
  /-- Whether a blank ended the last field, so that one other separator belongs to the blank. -/
  blank : Bool := false

namespace Cutting

def append (f : Cutting) (c : Char × Bool) : Cutting :=
  { f with current := some (c :: f.current.getD []), blank := false }

def cut (f : Cutting) : Cutting :=
  { complete := (f.current.map List.reverse).toList ++ f.complete }

def separator (f : Cutting) (isBlank : Bool) : Cutting :=
  match f.current, isBlank with
  | some _, isBlank => { f.cut with blank := isBlank }
  | none, true => f
  | none, false =>
    if f.blank then { f with blank := false } else { f with complete := [] :: f.complete }

def take (separators : Separators) (f : Cutting) : Piece → Cutting
  | .quote => { f with current := some (f.current.getD []), blank := false }
  | .boundary => f.cut
  | .char c quoted loose =>
    if loose && separators.chars.contains c then f.separator (separators.isBlank c)
    else f.append (c, quoted)

end Cutting

/-- The fields of an expanded word, in which some characters are quoted. -/
def markedFields (separators : Separators) (ps : List Piece) : List Marked :=
  (ps.foldl (Cutting.take separators) {}).cut.complete.reverse

/-- The fields of an expanded word, in which patterns may stand for themselves. -/
def fieldsOf (tree : FileTree) (literal : Bool) (separators : Separators) (ps : List Piece) :
    List String :=
  (markedFields separators ps).flatMap fun m =>
    if literal || !m.isPattern then [m.text]
    else match matchingPaths tree m with
      | [] => [m.text]
      | paths => paths

end EnvInject.Shell
