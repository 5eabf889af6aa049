/-!
# Shell scripts

The part of the shell notation that scripts around a secret store use: simple commands with quoting,
parameters, substitutions and redirections, joined by line ends, semicolons, `&&`, `||` and `|`,
groups, loops, choices by commands and by patterns, and functions.

* `Glyph`, `Word` : a word before its parameters are expanded;
* `Script` : commands and what joins them.
-/

namespace EnvInject.Shell

/-! ## Words -/

inductive Sign where
  /-- A word where there is no value. -/
  | default
  /-- The same, and the parameter gets the word as its value. -/
  | assign
  /-- An end of the script where there is no value. -/
  | demand
  /-- A word where there is a value. -/
  | alternative
  /-- The value without a beginning that a pattern matches. -/
  | cutFront (longest : Bool)
  /-- The value without an end that a pattern matches. -/
  | cutBack (longest : Bool)
  deriving DecidableEq, Repr

structure Parameter where
  /-- The name; one that is empty stands for notation that is not understood. -/
  name : String
  /-- Whether the length of the value is meant. -/
  isLength : Bool := false
  sign : Option Sign := none
  /-- Whether an empty value counts as none. -/
  emptyToo : Bool := false
  /-- What follows the sign, as it is written. -/
  word : List Char := []
  deriving DecidableEq, Repr

inductive Glyph where
  | char (c : Char) (quoted : Bool)
  | parameter (p : Parameter) (quoted : Bool)
  /-- The output of a script. -/
  | output (script : String) (quoted : Bool)
  /-- The number that an expression stands for. -/
  | arithmetic (text : List Char) (quoted : Bool)
  /-- The text of a here-document, as it is written. -/
  | document (text : List Char)
  /-- A quote, which makes a word of nothing at all. -/
  | quote
  deriving DecidableEq, Repr

/-- The character that a part of a word is, without quotes. -/
def Glyph.plain? : Glyph → Option Char
  | char c false => some c
  | _ => none

def Glyph.char? : Glyph → Option Char
  | char c _ => some c
  | _ => none

abbrev Word := List Glyph

def Word.text? (w : Word) : Option String := (w.mapM Glyph.plain?).map String.ofList

/-! ## Commands -/

inductive Channel where
  /-- Input from a file. -/
  | source
  /-- Output to a file. -/
  | sink (append : Bool)
  /-- A stream goes where another one goes. -/
  | duplicate
  /-- Input is the word itself; if it is indented, tabs at the start of its lines do not count. -/
  | document (indented : Bool)
  deriving DecidableEq, Repr

/-- A stream that is sent elsewhere, or taken from elsewhere. -/
structure Redirection where
  stream : Nat
  channel : Channel
  word : Word
  deriving DecidableEq, Repr

structure SimpleCommand where
  line : Nat
  assignments : List (String × Word) := []
  words : List Word := []
  redirections : List Redirection := []
  deriving DecidableEq, Repr

inductive Script where
  | nothing
  | simple (command : SimpleCommand)
  | sequence (first second : Script)
  /-- The second runs if the first succeeds. -/
  | both (first second : Script)
  /-- The second runs if the first fails. -/
  | either (first second : Script)
  | negated (script : Script)
  /-- The second reads what the first writes. -/
  | pipe (first second : Script)
  /-- The script runs beside those that follow. -/
  | background (script : Script)
  /-- What the script changes of the shell does not last. -/
  | subshell (script : Script)
  | redirected (script : Script) (redirections : List Redirection)
  | each (name : String) (words : List Word) (body : Script)
  /-- The body runs as long as the test succeeds, or as long as it fails. -/
  | repeated (untilSuccess : Bool) (test body : Script)
  | choice (test yes no : Script)
  /-- The first script with a pattern that matches the word. -/
  | select (word : Word) (branches : List (List Word × Script))
  /-- The body runs when the name is called. -/
  | function (name : String) (body : Script)
  /-- Notation that is not understood. -/
  | malformed (line : Nat) (complaint : String)

end EnvInject.Shell
