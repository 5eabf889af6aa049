import EnvInject.Command.Shell.Token

/-!
# Reading shell scripts

* `Reader.Fault` : why a script is not understood;
* `Reader.list` : the commands up to the end of a line or to a word that closes them;
* `Reader.body` : the commands of a compound command;
* `Script.read` : the commands of a whole script, as far as they are understood.
-/

namespace EnvInject.Shell

namespace Reader

/-! ## Faults -/

def reservedWords : List String :=
  ["!", "\x7b", "\x7d", "case", "do", "done", "elif", "else", "esac", "fi", "for", "if", "in",
    "then", "until", "while"]

/-- Why a script is not understood; without a line it is its end that comes too early. -/
structure Fault where
  line? : Option Nat
  complaint : String

abbrev Before (α : Type) := α × List PlacedToken

def describe : Token → String
  | .word w =>
    match w.text?.filter reservedWords.contains with
    | some word => "\"" ++ word ++ "\""
    | none => "word"
  | .newLine => "newline"
  | .semicolon => "\";\""
  | .doubleSemicolon => "\";;\""
  | .ampersand => "\"&\""
  | .and => "\"&&\""
  | .or => "\"||\""
  | .pipe => "\"|\""
  | .openParen => "\"(\""
  | .closeParen => "\")\""
  | .redirect _ _ => "redirection"
  | .bad complaint => complaint

/-- The fault that the first of some tokens should not stand there, but perhaps something else. -/
def unexpected (ts : List PlacedToken) (expected : Option String) : Fault :=
  let hint := match expected with
    | some sign => " (expecting \"" ++ sign ++ "\")"
    | none => ""
  match ts with
  | [] => { line? := none, complaint := "end of file unexpected" ++ hint }
  | (line, .bad complaint) :: _ => { line? := some line, complaint }
  | (line, .newLine) :: _ => { line? := some (line + 1), complaint := "newline unexpected" ++ hint }
  | (line, t) :: _ => { line? := some line, complaint := describe t ++ " unexpected" ++ hint }

/-! ## Words in front -/

/-- The word in front, if it has neither quotes nor parameters. -/
def front? : List PlacedToken → Option String
  | (_, .word w) :: _ => w.text?
  | _ => none

def closers : List String := ["then", "else", "elif", "fi", "do", "done", "esac", "\x7d"]

def isClosed (ts : List PlacedToken) : Bool :=
  match ts with
  | [] | (_, .closeParen) :: _ | (_, .doubleSemicolon) :: _ => true
  | ts => ((front? ts).map closers.contains).getD false

def skipNewLines : List PlacedToken → List PlacedToken
  | (_, .newLine) :: rest => skipNewLines rest
  | ts => ts

def skipSeparator : List PlacedToken → List PlacedToken
  | (_, .semicolon) :: rest => skipNewLines rest
  | ts => skipNewLines ts

def expect (word : String) (ts : List PlacedToken) : Except Fault (List PlacedToken) :=
  if front? ts = some word then .ok (ts.drop 1) else .error (unexpected ts (some word))

def expectCloseParen : List PlacedToken → Except Fault (List PlacedToken)
  | (_, .closeParen) :: rest => .ok rest
  | ts => .error (unexpected ts (some ")"))

/-- The tokens of at least one command; that a script ends early is found after it. -/
def expectCommand (ts : List PlacedToken) : Except Fault (List PlacedToken) :=
  match skipNewLines ts with
  | [] => .ok []
  | ts => if isClosed ts then .error (unexpected ts none) else .ok ts

def isReserved (ts : List PlacedToken) : Bool := ((front? ts).map reservedWords.contains).getD false

/-! ## Simple commands -/

/-- A tilde in front of a word, which stands for the home directory. -/
def expandTilde (w : Word) : Word :=
  let home : Glyph := .parameter { name := "HOME", sign := some .default, word := ['~'] } true
  match w with
  | [.char '~' false] => [home]
  | .char '~' false :: .char '/' false :: rest => home :: .char '/' false :: rest
  | w => w

def assignment? (w : Word) : Option (String × Word) := do
  let inName (g : Glyph) : Bool := (g.plain?.map (· != '=')).getD false
  let name ← Word.text? (w.takeWhile inName)
  match w.dropWhile inName with
  | .char '=' false :: value =>
    if isName name.toList then some (name, expandTilde value) else none
  | _ => none

def redirection? : List PlacedToken → Except Fault (Option (Before Redirection))
  | (_, .redirect stream channel) :: (_, .word word) :: rest =>
    .ok (some ({ stream, channel, word := expandTilde word }, rest))
  | (_, .redirect _ _) :: rest => .error (unexpected rest none)
  | _ => .ok none

/-- Reads redirections. `fuel` bounds their number. -/
def redirections : (fuel : Nat) → List PlacedToken → Except Fault (Before (List Redirection))
  | 0, ts => .ok ([], ts)
  | fuel + 1, ts => do
    match ← redirection? ts with
    | some (r, rest) =>
      let (more, rest) ← redirections fuel rest
      pure (r :: more, rest)
    | none => pure ([], ts)

/-- Reads the words and redirections of a simple command. `fuel` bounds their number. -/
def simple : (fuel : Nat) → SimpleCommand → List PlacedToken → Except Fault (Before SimpleCommand)
  | 0, command, ts => .ok (command, ts)
  | fuel + 1, command, ts => do
    match ← redirection? ts, ts with
    | some (r, rest), _ =>
      simple fuel { command with redirections := command.redirections ++ [r] } rest
    | none, (_, .word w) :: rest =>
      match if command.words.isEmpty then assignment? w else none with
      | some a => simple fuel { command with assignments := command.assignments ++ [a] } rest
      | none => simple fuel { command with words := command.words ++ [expandTilde w] } rest
    | none, ts => pure (command, ts)

def isEmpty (c : SimpleCommand) : Bool :=
  c.words.isEmpty && c.assignments.isEmpty && c.redirections.isEmpty

/-! ## Parts of compound commands -/

def words : List PlacedToken → List Word × List PlacedToken
  | (_, .word w) :: rest =>
    let (ws, rest) := words rest
    (expandTilde w :: ws, rest)
  | rest => ([], rest)

def allArguments : Word := [.quote, .parameter { name := "@" } true]

/-- Reads the name and the words of a loop; without words it runs over the arguments. -/
def loopHead (ts : List PlacedToken) : Except Fault (Before (String × List Word)) := do
  match (front? ts).filter (isName ·.toList) with
  | none =>
    let line? := ts.head?.map Prod.fst
    throw { line?, complaint := "Bad for loop variable" }
  | some name =>
    let rest := skipNewLines (ts.drop 1)
    if front? rest = some "in" then
      let (ws, rest) := words (rest.drop 1)
      pure ((name, ws), skipSeparator rest)
    else pure ((name, [allArguments]), skipSeparator rest)

def patterns : List PlacedToken → Except Fault (Before (List Word))
  | (_, .word w) :: (_, .pipe) :: rest => do
    let (ws, rest) ← patterns rest
    pure (w :: ws, rest)
  | (_, .word w) :: rest => do
    let rest ← expectCloseParen rest
    pure ([w], rest)
  | ts => .error (unexpected ts (some ")"))

def skipOpenParen : List PlacedToken → List PlacedToken
  | (_, .openParen) :: rest => rest
  | ts => ts

def functionHead? : List PlacedToken → Except Fault (Option (Before String))
  | (line, .word w) :: (_, .openParen) :: rest => do
    if (assignment? w).isSome then return none
    let rest ← expectCloseParen rest
    match w.text?.filter (isName ·.toList) with
    | some name => pure (some (name, skipNewLines rest))
    | none => throw { line? := some line, complaint := "Bad function name" }
  | _ => .ok none

/-! ## Commands -/

mutual

/-- Reads commands up to the end of a line or to a word that closes them. -/
def list : (fuel : Nat) → List PlacedToken → Except Fault (Before Script)
  | 0, ts => .error (unexpected ts none)
  | fuel + 1, ts => do
    let (first, rest) ← pipeline fuel ts
    let (first, rest) ← joined fuel first rest
    match rest with
    | (_, .semicolon) :: rest => more fuel first rest
    | (_, .ampersand) :: rest => more fuel (.background first) rest
    | rest => pure (first, rest)

def more : (fuel : Nat) → Script → List PlacedToken → Except Fault (Before Script)
  | 0, _, ts => .error (unexpected ts none)
  | fuel + 1, first, ts =>
    if isClosed ts || (skipNewLines ts).length < ts.length then .ok (first, ts)
    else do
      let (second, rest) ← list fuel ts
      pure (.sequence first second, rest)

def body : (fuel : Nat) → List PlacedToken → Except Fault (Before Script)
  | 0, ts => .error (unexpected ts none)
  | fuel + 1, ts =>
    let ts := skipNewLines ts
    if isClosed ts then .ok (.nothing, ts)
    else do
      let (first, rest) ← list fuel ts
      if isClosed rest || (skipNewLines rest).length < rest.length then
        let (second, rest) ← body fuel rest
        pure (.sequence first second, rest)
      else pure (first, rest)

/-- Reads the commands joined to one by `&&` and `||`. -/
def joined : (fuel : Nat) → Script → List PlacedToken → Except Fault (Before Script)
  | 0, _, ts => .error (unexpected ts none)
  | fuel + 1, first, (_, .and) :: rest => do
    let (second, rest) ← pipeline fuel (skipNewLines rest)
    joined fuel (.both first second) rest
  | fuel + 1, first, (_, .or) :: rest => do
    let (second, rest) ← pipeline fuel (skipNewLines rest)
    joined fuel (.either first second) rest
  | _ + 1, first, rest => .ok (first, rest)

/-- Reads commands joined by `|`, perhaps negated. -/
def pipeline : (fuel : Nat) → List PlacedToken → Except Fault (Before Script)
  | 0, ts => .error (unexpected ts none)
  | fuel + 1, ts =>
    if front? ts = some "!" then do
      let (script, rest) ← piped fuel (ts.drop 1)
      pure (.negated script, rest)
    else piped fuel ts

def piped : (fuel : Nat) → List PlacedToken → Except Fault (Before Script)
  | 0, ts => .error (unexpected ts none)
  | fuel + 1, ts => do
    let (first, rest) ← command fuel ts
    match rest with
    | (_, .pipe) :: rest =>
      let (second, rest) ← piped fuel (skipNewLines rest)
      pure (.pipe first second, rest)
    | rest => pure (first, rest)

def command : (fuel : Nat) → List PlacedToken → Except Fault (Before Script)
  | 0, ts => .error (unexpected ts none)
  | fuel + 1, ts => do
    if let some (script, rest) ← compound? fuel ts then
      let (rs, rest) ← redirections rest.length rest
      return (if rs.isEmpty then script else .redirected script rs, rest)
    if isClosed ts || isReserved ts then throw (unexpected ts none)
    if let some (name, rest) ← functionHead? ts then
      let (script, rest) ← command fuel rest
      return (.function name script, rest)
    let (command, rest) ← simple ts.length { line := (ts.head?.map (·.1)).getD 1 } ts
    if isEmpty command then throw (unexpected ts none) else pure (.simple command, rest)

def compound? : (fuel : Nat) → List PlacedToken →
    Except Fault (Option (Before Script))
  | 0, ts => .error (unexpected ts none)
  | fuel + 1, ts =>
    match ts, front? ts with
    | (_, .openParen) :: rest, _ => do
      let (script, rest) ← body fuel (← expectCommand rest)
      pure (some (.subshell script, ← expectCloseParen rest))
    | _, some "\x7b" => do
      let (script, rest) ← body fuel (← expectCommand (ts.drop 1))
      pure (some (script, ← expect "\x7d" rest))
    | _, some "for" => do
      let ((name, ws), rest) ← loopHead (ts.drop 1)
      let (script, rest) ← doBody fuel rest
      pure (some (.each name ws script, rest))
    | _, some "while" => do
      let (test, rest) ← body fuel (← expectCommand (ts.drop 1))
      let (script, rest) ← doBody fuel rest
      pure (some (.repeated false test script, rest))
    | _, some "until" => do
      let (test, rest) ← body fuel (← expectCommand (ts.drop 1))
      let (script, rest) ← doBody fuel rest
      pure (some (.repeated true test script, rest))
    | _, some "if" => do
      pure (some (← choice fuel (ts.drop 1)))
    | _, some "case" => do
      pure (some (← selection fuel (ts.drop 1)))
    | _, _ => .ok none

def doBody : (fuel : Nat) → List PlacedToken → Except Fault (Before Script)
  | 0, ts => .error (unexpected ts none)
  | fuel + 1, ts => do
    let (script, rest) ← body fuel (← expectCommand (← expect "do" ts))
    pure (script, ← expect "done" rest)

def choice : (fuel : Nat) → List PlacedToken → Except Fault (Before Script)
  | 0, ts => .error (unexpected ts none)
  | fuel + 1, ts => do
    let (test, rest) ← body fuel (← expectCommand ts)
    let (yes, rest) ← body fuel (← expectCommand (← expect "then" rest))
    match front? rest with
    | some "elif" =>
      let (no, rest) ← choice fuel (rest.drop 1)
      pure (.choice test yes no, rest)
    | some "else" =>
      let (no, rest) ← body fuel (← expectCommand (rest.drop 1))
      pure (.choice test yes no, ← expect "fi" rest)
    | _ => pure (.choice test yes .nothing, ← expect "fi" rest)

def selection : (fuel : Nat) → List PlacedToken → Except Fault (Before Script)
  | 0, ts => .error (unexpected ts none)
  | fuel + 1, ts =>
    match ts with
    | (_, .word word) :: rest => do
      let (cases, rest) ← branches fuel (← expect "in" (skipNewLines rest))
      pure (.select (expandTilde word) cases, rest)
    | ts => .error (unexpected ts none)

def branches : (fuel : Nat) → List PlacedToken → Except Fault (Before (List (List Word × Script)))
  | 0, ts => .error (unexpected ts none)
  | fuel + 1, ts =>
    let ts := skipNewLines ts
    if front? ts = some "esac" then .ok ([], ts.drop 1)
    else do
      let (ws, rest) ← patterns (skipOpenParen ts)
      let (script, rest) ← body fuel rest
      match rest, front? rest with
      | (_, .doubleSemicolon) :: rest, _ =>
        let (more, rest) ← branches fuel rest
        pure ((ws, script) :: more, rest)
      | rest, some "esac" => pure ([(ws, script)], rest.drop 1)
      | rest, _ => throw (unexpected rest (some ";;"))

end

/-- Reads a script line by line. What is not understood takes the place of all that follows; `last`
is the number of the last line. -/
def lines (last : Nat) : (fuel : Nat) → List PlacedToken → Script
  | 0, _ => .nothing
  | fuel + 1, ts =>
    let malformed (f : Fault) : Script :=
      .malformed (f.line?.getD last) ("Syntax error: " ++ f.complaint)
    match skipNewLines ts with
    | [] => .nothing
    | ts =>
      match list fuel ts with
      | .ok (script, []) => script
      | .ok (script, (_, .newLine) :: rest) => .sequence script (lines last fuel rest)
      | .ok (_, rest) => malformed (unexpected rest none)
      | .error f => malformed f

end Reader

def Script.read (script : String) : Script :=
  let ts := tokens script
  let last := 1 + script.toList.count '\n'
  Reader.lines last (8 * ts.length + 8) ts

end EnvInject.Shell
