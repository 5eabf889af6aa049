import EnvInject.Command.Shell.Script
import EnvInject.Text.Digits

/-!
# Tokens of shell scripts

A script is cut into words and signs one character at a time.

* `Token` : words and signs;
* `Lexer.step` : takes one more character;
* `tokens` : the tokens of a script with their lines;
* `nestedWord?`, `documentWord?` : the parts of a text within a parameter or a here-document.
-/

namespace EnvInject.Shell

inductive Token where
  | word (w : Word)
  | newLine
  | semicolon
  | doubleSemicolon
  | ampersand
  | and
  | or
  | pipe
  | openParen
  | closeParen
  /-- The next word tells where a stream goes or comes from. -/
  | redirect (stream : Nat) (channel : Channel)
  /-- Notation that is not understood; nothing follows it. -/
  | bad (complaint : String)
  deriving DecidableEq, Repr

abbrev PlacedToken := Nat × Token

/-- What a text is cut for: a script, a word within a parameter, or a here-document, where all but
parameters and substitutions stands for itself. -/
inductive Purpose where
  | script
  | word
  | document
  deriving DecidableEq, Repr

structure Announced where
  /-- The number of tokens before its delimiter. -/
  position : Nat
  delimiter : List Char
  /-- Whether parameters in it are expanded. -/
  expanded : Bool
  /-- Whether tabs at the start of its lines do not count. -/
  indented : Bool

/-- What the lexer is in the middle of. Collected characters stand in reverse. -/
inductive Mode where
  | bare
  | single
  | double
  | escape (double : Bool)
  | dollar (double : Bool)
  | name (double : Bool) (seen : List Char)
  /-- In a part that ends with a sign of its own, inside `depth` more such parts and perhaps inside
  quotes. -/
  | nested (close : Char) (double : Bool) (depth : Nat) (quote : Option Char) (escaped : Bool)
    (seen : List Char)
  | comment
  /-- After a sign that may be doubled. -/
  | sign (c : Char)
  | less (stream : Nat)
  | lessLess (stream : Nat)
  | greater (stream : Nat)
  /-- In the lines of a here-document: those before, and the one that is not complete. -/
  | document (lines line : List Char)

/-- The state of cutting; lists stand in reverse. -/
structure Lexer where
  purpose : Purpose := .script
  tokens : List PlacedToken := []
  word : Option (List Glyph) := none
  mode : Mode := .bare
  line : Nat := 1
  announced : List Announced := []

/-! ## Names -/

/-- The parameters with names of one sign. -/
def isSpecialName (c : Char) : Bool := c.isDigit || "@*#?$-!".toList.contains c

def startsName (c : Char) : Bool := c.isAlpha || c == '_'

def isNameChar (c : Char) : Bool := c.isAlphanum || c == '_'

def isName (cs : List Char) : Bool := (cs.head?.map startsName).getD false && cs.all isNameChar

/-- The stream that a word of one digit names. -/
def streamOf? (w : Word) : Option Nat :=
  match w with
  | [.char c false] => Digits.value? 10 c
  | _ => none

/-! ## Parameters in braces -/

def sign? : List Char → Option (Sign × List Char)
  | '-' :: rest => some (.default, rest)
  | '=' :: rest => some (.assign, rest)
  | '?' :: rest => some (.demand, rest)
  | '+' :: rest => some (.alternative, rest)
  | '#' :: '#' :: rest => some (.cutFront true, rest)
  | '#' :: rest => some (.cutFront false, rest)
  | '%' :: '%' :: rest => some (.cutBack true, rest)
  | '%' :: rest => some (.cutBack false, rest)
  | _ => none

def leadingName : List Char → List Char × List Char
  | [] => ([], [])
  | c :: rest =>
    if startsName c then ((c :: rest).takeWhile isNameChar, (c :: rest).dropWhile isNameChar)
    else if c.isDigit then ((c :: rest).takeWhile Char.isDigit, (c :: rest).dropWhile Char.isDigit)
    else if isSpecialName c then ([c], rest)
    else ([], c :: rest)

/-- The parameter that a text in braces means. -/
def Parameter.ofText? (cs : List Char) : Option Parameter :=
  match cs, leadingName cs, leadingName (cs.drop 1) with
  | '#' :: _, _, (c :: name, []) => some { name := String.ofList (c :: name), isLength := true }
  | _, (c :: name, rest), _ =>
    let name := String.ofList (c :: name)
    match rest with
    | [] => some { name }
    | ':' :: rest =>
      match sign? rest with
      | some (.cutFront _, _) | some (.cutBack _, _) | none => none
      | some (sign, word) => some { name, sign, emptyToo := true, word }
    | rest => (sign? rest).map fun (sign, word) => { name, sign, word }
  | _, _, _ => none

namespace Lexer

/-! ## Words -/

def push (l : Lexer) (g : Glyph) : Lexer := { l with word := some (g :: l.word.getD []) }

def token (l : Lexer) (t : Token) : Lexer := { l with tokens := (l.line, t) :: l.tokens }

def announce (l : Lexer) (w : Word) (indented : Bool) : Lexer :=
  let one : Announced :=
    { position := l.tokens.length, delimiter := w.filterMap Glyph.char?
      expanded := w.all (·.plain?.isSome), indented }
  { l with announced := l.announced ++ [one] }

def endWord (l : Lexer) : Lexer :=
  match l.word with
  | none => l
  | some glyphs =>
    let w := glyphs.reverse
    let l := { l with word := none }
    match l.tokens with
    | (_, .redirect _ (.document indented)) :: _ => (l.announce w indented).token (.word w)
    | _ => l.token (.word w)

def home (double : Bool) : Mode := if double then .double else .bare

def add (l : Lexer) (double : Bool) (g : Glyph) : Lexer := { l.push g with mode := home double }

def parameter (l : Lexer) (double : Bool) (name : List Char) : Lexer :=
  l.add double (.parameter { name := String.ofList name } double)

/-! ## Here-documents -/

/-- Ends the first here-document, whose text takes the place of its delimiter. -/
def endDocument (l : Lexer) (lines : List Char) : Lexer :=
  match l.announced with
  | [] => { l with mode := .bare }
  | doc :: rest =>
    let text := lines.reverse
    let w : Word := if doc.expanded then [.document text] else text.map (.char · true)
    { l with
      tokens := l.tokens.set (l.tokens.length - 1 - doc.position) (l.line, .word w)
      announced := rest
      mode := if rest.isEmpty then .bare else .document [] [] }

def endsDocument (l : Lexer) (line : List Char) : Bool :=
  (l.announced.head?.map (·.delimiter == line)).getD true

def documentStep (l : Lexer) (lines line : List Char) (c : Char) : Lexer :=
  let indented := (l.announced.head?.map (·.indented)).getD false
  if c != '\n' then
    if indented && line.isEmpty && c == '\t' then l
    else { l with mode := .document lines (c :: line) }
  else
    let l := { l with line := l.line + 1 }
    if l.endsDocument line.reverse then l.endDocument lines
    else { l with mode := .document ('\n' :: line ++ lines) [] }

/-! ## Single characters -/

/-- The sign `<` or `>`, perhaps after the number of a stream. -/
def angle (l : Lexer) (default : Nat) (mode : Nat → Mode) : Lexer :=
  match l.word.bind fun w => streamOf? w.reverse with
  | some stream => { l with word := none, mode := mode stream }
  | none => { l.endWord with mode := mode default }

def newLine (l : Lexer) : Lexer :=
  let l := { l.endWord.token .newLine with line := l.line + 1 }
  if l.announced.isEmpty then l else { l with mode := .document [] [] }

def separatorStep? (l : Lexer) (c : Char) : Option Lexer :=
  if l.purpose != .script then none
  else match c with
    | '\n' => some l.newLine
    | ' ' | '\t' => some l.endWord
    | ';' | '&' | '|' => some { l.endWord with mode := .sign c }
    | '(' => some (l.endWord.token .openParen)
    | ')' => some (l.endWord.token .closeParen)
    | '<' => some (l.angle 0 .less)
    | '>' => some (l.angle 1 .greater)
    | '#' => if l.word.isNone then some { l with mode := .comment } else none
    | _ => none

def bareStep (l : Lexer) (c : Char) : Lexer :=
  match l.separatorStep? c with
  | some l => l
  | none =>
    match c with
    | '\'' => { l.push .quote with mode := .single }
    | '"' => { l.push .quote with mode := .double }
    | '\\' => { l with mode := .escape false }
    | '$' => { l with mode := .dollar false }
    | '\x60' => { l with mode := .nested c false 0 none false [] }
    | _ => l.push (.char c false)

def doubleStep (l : Lexer) (c : Char) : Lexer :=
  match c with
  | '"' => if l.purpose == .document then l.push (.char c true) else { l with mode := .bare }
  | '\\' => { l with mode := .escape true }
  | '$' => { l with mode := .dollar true }
  | '\x60' => { l with mode := .nested c true 0 none false [] }
  | '\n' => { l.push (.char c true) with line := l.line + 1 }
  | _ => l.push (.char c true)

def homeStep (l : Lexer) (double : Bool) (c : Char) : Lexer :=
  let l := { l with mode := home double }
  if double then l.doubleStep c else l.bareStep c

def escapeStep (l : Lexer) (double : Bool) (c : Char) : Lexer :=
  let l := { l with mode := home double }
  let special := if l.purpose == .document then "$\\\x60" else "$\"\\\x60"
  if c == '\n' then { l with line := l.line + 1 }
  else if double && !special.toList.contains c then
    (l.push (.char '\\' true)).push (.char c true)
  else l.push (.char c true)

def dollarStep (l : Lexer) (double : Bool) (c : Char) : Lexer :=
  if startsName c then { l with mode := .name double [c] }
  else if isSpecialName c then l.parameter double [c]
  else if c == '{' then { l with mode := .nested '}' double 0 none false [] }
  else if c == '(' then { l with mode := .nested ')' double 0 none false [] }
  else (l.push (.char '$' double)).homeStep double c

/-! ## Nested parts -/

/-- A script between backquotes without the backslashes that protect backquotes, backslashes and
dollar signs. -/
def unprotect : List Char → List Char
  | '\\' :: c :: rest =>
    if "$\\\x60".toList.contains c then c :: unprotect rest else '\\' :: c :: unprotect rest
  | c :: rest => c :: unprotect rest
  | [] => []

def endNested (l : Lexer) (close : Char) (double : Bool) (text : List Char) : Lexer :=
  if close == '}' then
    l.add double (.parameter ((Parameter.ofText? text).getD { name := "" }) double)
  else if close == '\x60' then l.add double (.output (String.ofList (unprotect text)) double)
  else if text.head? == some '(' && text.getLast? == some ')' then
    l.add double (.arithmetic (text.drop 1).dropLast double)
  else l.add double (.output (String.ofList text) double)

def nestedStep (l : Lexer) (close : Char) (double : Bool) (depth : Nat) (quote : Option Char)
    (escaped : Bool) (seen : List Char) (c : Char) : Lexer :=
  let l := if c == '\n' then { l with line := l.line + 1 } else l
  let goOn (depth : Nat) (quote : Option Char) (escaped : Bool) : Lexer :=
    { l with mode := .nested close double depth quote escaped (c :: seen) }
  let opens := if close == ')' then '(' else if close == '}' then '{' else close
  let isQuote := (c == '"' || c == '\'') && close != '\x60' && !(close == '}' && double)
  if escaped then goOn depth quote false
  else if c == '\\' && quote != some '\'' then goOn depth quote true
  else if quote.isSome then goOn depth (if quote == some c then none else quote) false
  else if c == close then
    match depth with
    | 0 => l.endNested close double seen.reverse
    | depth + 1 => goOn depth none false
  else if isQuote then goOn depth (some c) false
  else goOn (if c == opens then depth + 1 else depth) none false

/-! ## Signs of several characters -/

/-- What a sign means once and doubled. -/
def signTokens (sign : Char) : Token × Token :=
  if sign == ';' then (.semicolon, .doubleSemicolon)
  else if sign == '&' then (.ampersand, .and)
  else (.pipe, .or)

/-- Takes a character after `;`, `&` or `|`. -/
def signStep (l : Lexer) (sign c : Char) : Lexer :=
  let l := { l with mode := .bare }
  let (once, twice) := signTokens sign
  if c == sign then l.token twice else (l.token once).bareStep c

def lessStep (l : Lexer) (stream : Nat) (c : Char) : Lexer :=
  let l := { l with mode := .bare }
  if c == '<' then { l with mode := .lessLess stream }
  else if c == '&' then l.token (.redirect stream .duplicate)
  else (l.token (.redirect stream .source)).bareStep c

def lessLessStep (l : Lexer) (stream : Nat) (c : Char) : Lexer :=
  let l := { l with mode := .bare }
  if c == '-' then l.token (.redirect stream (.document true))
  else (l.token (.redirect stream (.document false))).bareStep c

def greaterStep (l : Lexer) (stream : Nat) (c : Char) : Lexer :=
  let l := { l with mode := .bare }
  if c == '>' then l.token (.redirect stream (.sink true))
  else if c == '&' then l.token (.redirect stream .duplicate)
  else if c == '|' then l.token (.redirect stream (.sink false))
  else (l.token (.redirect stream (.sink false))).bareStep c

def step (l : Lexer) (c : Char) : Lexer :=
  match l.mode with
  | .bare => l.bareStep c
  | .single =>
    if c == '\'' then { l with mode := .bare }
    else { l.push (.char c true) with line := if c == '\n' then l.line + 1 else l.line }
  | .double => l.doubleStep c
  | .escape double => l.escapeStep double c
  | .dollar double => l.dollarStep double c
  | .name double seen =>
    if isNameChar c then { l with mode := .name double (c :: seen) }
    else (l.parameter double seen.reverse).homeStep double c
  | .nested close double depth quote escaped seen =>
    l.nestedStep close double depth quote escaped seen c
  | .comment => if c == '\n' then { l with mode := .bare }.bareStep c else l
  | .sign sign => l.signStep sign c
  | .less stream => l.lessStep stream c
  | .lessLess stream => l.lessLessStep stream c
  | .greater stream => l.greaterStep stream c
  | .document lines line => l.documentStep lines line c

/-! ## The end -/

/-- Ends the word and the here-documents that have not begun. -/
def endAll (l : Lexer) : Lexer :=
  let l := l.endWord
  l.announced.foldl (fun l _ => l.endDocument []) l

def openQuote : Token := .bad "Unterminated quoted string"

def endHome (l : Lexer) (double : Bool) : Lexer :=
  if double && l.purpose == .script then l.token openQuote else l.endAll

def openNested (close : Char) (quote : Option Char) : Token :=
  if quote.isSome then openQuote
  else if close == '\x7d' then .bad "Missing '\x7d'"
  else if close == ')' then .bad "end of file unexpected (expecting \")\")"
  else .bad "EOF in backquote substitution"

def finish (l : Lexer) : Lexer :=
  match l.mode with
  | .bare | .comment => l.endAll
  | .single => l.token openQuote
  | .double => l.endHome true
  | .name double seen => (l.parameter double seen.reverse).endHome double
  | .dollar double => (l.push (.char '$' double)).endHome double
  | .escape double => (l.push (.char '\\' double)).endHome double
  | .nested close _ _ quote _ _ => l.token (openNested close quote)
  | .sign sign => (l.token (signTokens sign).1).endAll
  | .less stream => l.token (.redirect stream .source)
  | .lessLess stream => l.token (.redirect stream (.document false))
  | .greater stream => l.token (.redirect stream (.sink false))
  | .document lines line =>
    (if l.endsDocument line.reverse then l.endDocument lines
      else l.endDocument (line ++ lines)).endAll

def placed (l : Lexer) : List PlacedToken := l.finish.tokens.reverse

end Lexer

/-- The tokens of a script, each with the number of its line. -/
def tokens (script : String) : List PlacedToken :=
  (script.toList.foldl Lexer.step {}).placed

def wordFor? (purpose : Purpose) (double : Bool) (text : List Char) : Option Word :=
  match (text.foldl Lexer.step { purpose, mode := Lexer.home double }).placed with
  | [] => some []
  | [(_, .word w)] => some w
  | _ => none

def nestedWord? (double : Bool) (text : List Char) : Option Word := wordFor? .word double text

def documentWord? (text : List Char) : Option Word := wordFor? .document true text

end EnvInject.Shell
