import EnvInject.Command.Shell.Arithmetic
import EnvInject.Command.Shell.Launch
import EnvInject.Command.Shell.Reader
import EnvInject.Command.Shell.Redirection

/-!
# Running shell scripts

* `Shell.run` : runs commands in a session;
* `Shell.simple`, `command` : run a command, with its words expanded;
* `Shell.fields`, `pieces` : expand words;
* `Shell.runText` : the outcome of a script.
-/

namespace EnvInject.Shell

/-! ## Parts of commands -/

/-- The session after a command, which may end the script if it failed. -/
def settle (tested : Bool) (s : Session) : Session :=
  if s.options.exitOnError && !tested && s.status != 0 && s.leaving.isNone then s.endWith s.status
  else s

/-- A word without the quotes around all arguments where there are none. -/
def dropEmptyArguments (s : Session) : Word → Word
  | .quote :: .parameter p true :: rest =>
    if p.name == "@" && p.sign.isNone && s.args.isEmpty then dropEmptyArguments s rest
    else .quote :: .parameter p true :: dropEmptyArguments s rest
  | g :: rest => g :: dropEmptyArguments s rest
  | [] => []

def valuePieces (s : Session) (name value : String) (quoted : Bool) : List Piece :=
  let apart := (s.args.map (piecesOf quoted)).intersperse [.boundary]
  match name, quoted with
  | "@", _ | "*", false => apart.flatten
  | "*", true => piecesOf true ((String.ofList (s.separators.chars.take 1)).intercalate s.args)
  | _, _ => piecesOf quoted value

/-- The number that an expression stands for; a variable without a value counts as 0. -/
def calculate (s : Session) (text : String) : Except String Int :=
  let value (name : String) : Except String Int :=
    match (s.get? name).filter (!·.isEmpty) with
    | none => .ok 0
    | some value =>
      match argumentNumber false value with
      | (n, none) => .ok n
      | (_, some _) => .error s!"Illegal number: {value}"
  match Arithmetic.evaluate value text with
  | .ok n => .ok n
  | .error complaint =>
    .error (if complaint.startsWith "Illegal" then complaint
      else s!"arithmetic expression: {complaint}: \"" ++ text ++ "\"")

def dropLineEnds (s : String) : String :=
  String.ofList (s.toList.reverse.dropWhile (· == '\n')).reverse

mutual

/-- Runs commands; those that are tested may fail. -/
def run (start : Starter) : (fuel : Nat) → (tested : Bool) → Script → Session → Session
  | 0, _, _, s => s.fail 2 "Maximum depth reached"
  | fuel + 1, tested, script, s =>
    if s.leaving.isSome then s
    else match script with
      | .nothing => s
      | .simple c => settle tested (simple start fuel tested c { s with line := c.line })
      | .sequence first second =>
        let s := run start fuel tested first s
        match s.standing with
        | some streams =>
          perform { s with standing := none } streams (run start fuel tested second)
        | none => run start fuel tested second s
      | .both first second =>
        let s := run start fuel true first s
        if s.status = 0 then run start fuel tested second s else s
      | .either first second =>
        let s := run start fuel true first s
        if s.status = 0 then s else run start fuel tested second s
      | .negated script =>
        let s := run start fuel true script s
        { s with status := if s.status = 0 then 1 else 0 }
      | .pipe first second =>
        let a := s.afterSubshell (run start fuel tested first { s with writes := [] })
        let kept := a.writes.filter (·.1 != 1)
        let b := { a with writes := kept ++ s.writes, input := a.written 1 }
        let b := s.afterSubshell (run start fuel tested second { b with status := s.status })
        settle tested { b with input := a.input }
      | .background script =>
        { s.afterSubshell (run start fuel tested script { s with input := [] }) with
          status := 0, input := s.input }
      | .subshell script => settle tested (s.afterSubshell (run start fuel tested script s))
      | .redirected script redirections =>
        match redirect start fuel redirections s {} with
        | .ok (s, streams) => perform s streams (run start fuel tested script)
        | .error s => settle tested s
      | .each name words body =>
        let (s, values) := fields start fuel words s
        let s := { s with status := 0, loops := s.loops + 1 }
        let s := each start fuel tested name body values s
        { s with loops := s.loops - 1 }
      | .repeated untilSuccess test body =>
        let s := repeated start fuel tested untilSuccess test body 0 { s with loops := s.loops + 1 }
        { s with loops := s.loops - 1 }
      | .choice test yes no =>
        let s := run start fuel true test s
        if s.status = 0 then run start fuel tested yes s
        else run start fuel tested no { s with status := 0 }
      | .select word branches =>
        let (s, ps) := pieces start fuel word s
        select start fuel tested (textOf ps).toList branches { s with status := 0 }
      | .function name body => { s with functions := (name, body) :: s.functions, status := 0 }
      | .malformed line complaint => { s with line }.fail 2 complaint

def each (start : Starter) : (fuel : Nat) → (tested : Bool) → (name : String) → (body : Script) →
    List String → Session → Session
  | 0, _, _, _, _, s => s
  | _ + 1, _, _, _, [], s => s
  | fuel + 1, tested, name, body, value :: values, s =>
    match (run start fuel tested body (s.set name value)).afterRound with
    | (s, true) => each start fuel tested name body values s
    | (s, false) => s

/-- Runs the body of a loop as long as the test says so; `status` is that of the last round. -/
def repeated (start : Starter) : (fuel : Nat) → (tested untilSuccess : Bool) →
    (test body : Script) → (status : Nat) → Session → Session
  | 0, _, _, _, _, _, s => s
  | fuel + 1, tested, untilSuccess, test, body, status, s =>
    match (run start fuel true test s).afterRound with
    | (s, false) => s
    | (s, true) =>
      if (s.status == 0) == untilSuccess then { s with status }
      else match (run start fuel tested body s).afterRound with
        | (s, true) => repeated start fuel tested untilSuccess test body s.status s
        | (s, false) => s

def select (start : Starter) : (fuel : Nat) → (tested : Bool) → List Char →
    List (List Word × Script) → Session → Session
  | 0, _, _, _, s => s
  | _ + 1, _, _, [], s => s
  | fuel + 1, tested, subject, (patterns, body) :: rest, s =>
    let (s, found) := patterns.foldl (fun (s, found) w =>
        if found then (s, true)
        else
          let (s, ps) := pieces start fuel w s
          (s, (Pattern.ofMarked (markedOf ps)).accepts subject))
      (s, false)
    if found then run start fuel tested body s else select start fuel tested subject rest s

def simple (start : Starter) : (fuel : Nat) → (tested : Bool) → SimpleCommand → Session → Session
  | 0, _, _, s => s
  | fuel + 1, tested, c, s =>
    let (s, args) := fields start fuel c.words { s with substituted := none }
    let (s, settings) := c.assignments.foldl (fun (s, settings) a =>
        let (s, ps) := pieces start fuel a.2 s
        let value := textOf ps
        (if args.isEmpty then s.set a.1 value else s, settings ++ [(a.1, value)]))
      (s, [])
    if s.leaving.isSome then s
    else match redirect start fuel c.redirections s {}, args with
      | .error s, name :: _ => if isSpecial name then s.endWith s.status else s
      | .error s, [] => s
      | .ok (s, streams), ["exec"] => { s with standing := some streams, status := 0 }
      | .ok (s, streams), [] =>
        perform s streams fun s => { s with status := s.substituted.getD 0 }
      | .ok (s, streams), name :: args =>
        perform s streams (command start fuel tested settings name args)

def command (start : Starter) : (fuel : Nat) → (tested : Bool) →
    (settings : List (String × String)) → (name : String) → (args : List String) → Session → Session
  | 0, _, _, _, _, s => s
  | fuel + 1, tested, settings, name, args, s =>
    let function? := if isSpecial name then none else s.functions.lookup name
    if function?.isNone && !builtinNames.contains name then s.program start settings name args
    else
      let before := settings.map fun p => (p.1, s.get? p.1)
      let set := settings.foldl (fun s p => s.set p.1 p.2) s
      let after := match function?, name, args with
        | some body, _, args =>
          set.afterFunction
            (run start fuel tested body { set with args, hidden := some [], loops := 0 })
        | none, "eval", args => run start fuel tested (Script.read (" ".intercalate args)) set
        | none, ".", name :: _ =>
          match set.included name with
          | .ok text =>
            let s := run start fuel tested (Script.read text) set
            if s.leaving == some Leaving.function then { s with leaving := none } else s
          | .error complaint => set.fail 2 (".: " ++ complaint)
        | none, "exec", program :: args => set.replace start settings program args
        | none, "command", "-v" :: name :: _ => set.locate name
        | none, "command", program :: args =>
          command start fuel tested settings program args { set with functions := [] }
        | none, name, args => (set.builtin? name args).getD { set with status := 0 }
      let functions := if name == "command" then s.functions else after.functions
      let after := { after with functions }
      if isSpecial name then after else before.foldl Session.restore after

/-- Opens redirections in order. A session is the error, which has complained. -/
def redirect (start : Starter) : (fuel : Nat) → List Redirection → Session → Streams →
    Except Session (Session × Streams)
  | 0, _, s, streams => .ok (s, streams)
  | _ + 1, [], s, streams => .ok (s, streams)
  | fuel + 1, r :: rest, s, streams =>
    let (s, ps) := pieces start fuel r.word s
    match openStream s streams r.stream r.channel (textOf ps) with
    | .ok (s, streams) => redirect start fuel rest s streams
    | .error complaint => .error (s.complain 2 complaint)

def fields (start : Starter) : (fuel : Nat) → List Word → Session → Session × List String
  | 0, _, s => (s, [])
  | fuel + 1, words, s =>
    words.foldl (fun (s, done) w =>
        let (s, ps) := pieces start fuel w s
        (s, done ++ fieldsOf s.tree s.options.literal s.separators ps))
      (s, [])

def pieces (start : Starter) : (fuel : Nat) → Word → Session → Session × List Piece
  | 0, _, s => (s, [])
  | fuel + 1, w, s =>
    (dropEmptyArguments s w).foldl (fun (s, ps) g =>
        let (s, more) := piecesOfGlyph start fuel g s
        (s, ps ++ more))
      (s, [])

def piecesOfGlyph (start : Starter) : (fuel : Nat) → Glyph → Session → Session × List Piece
  | 0, _, s => (s, [])
  | fuel + 1, g, s =>
    match g with
    | .char c quoted => (s, [.char c quoted false])
    | .quote => (s, [.quote])
    | .document text =>
      match documentWord? text with
      | some w => pieces start fuel w s
      | none => (s.fail 2 "Syntax error", [])
    | .output script quoted =>
      let inner := run start fuel false (Script.read script) { s with writes := [] }
      let after := s.afterSubshell inner
      let text := dropLineEnds (Utf8.decodeLossy (after.written 1))
      ({ after with
          writes := after.writes.filter (·.1 != 1) ++ s.writes
          status := s.status
          substituted := some after.status },
        piecesOf quoted text)
    | .parameter p quoted => parameter start fuel p quoted s
    | .arithmetic text quoted =>
      let (s, ps) := pieces start fuel ((documentWord? text).getD []) s
      match calculate s (textOf ps) with
      | .ok n => (s, piecesOf quoted (toString n))
      | .error complaint => (s.fail 2 complaint, [])

def parameter (start : Starter) : (fuel : Nat) → Parameter → (quoted : Bool) → Session →
    Session × List Piece
  | 0, _, _, s => (s, [])
  | fuel + 1, p, quoted, s =>
    if p.name.isEmpty then (s.fail 2 "Bad substitution", [])
    else
    let value? := s.value? p.name
    let value := value?.getD ""
    let isMissing := value?.isNone || (p.emptyToo && value.isEmpty)
    let own := valuePieces s p.name value quoted
    let word (s : Session) : Session × List Piece :=
      match nestedWord? quoted p.word with
      | none => (s.fail 2 "Syntax error", [])
      | some w =>
        let (s, ps) := pieces start fuel w s
        (s, if quoted then .quote :: ps else ps.map Piece.loosen)
    let unset := s.options.exitOnUnset && value?.isNone && p.name != "@" && p.name != "*"
    if p.isLength then (s, piecesOf quoted (toString value.utf8ByteSize))
    else match p.sign with
      | none => if unset then (s.fail 2 s!"{p.name}: parameter not set", []) else (s, own)
      | some .default => if isMissing then word s else (s, own)
      | some .alternative => if isMissing then (s, piecesOf quoted "") else word s
      | some .assign =>
        if isMissing then
          let (s, ps) := word s
          (s.set p.name (textOf ps), ps)
        else (s, own)
      | some .demand =>
        if !isMissing then (s, own)
        else
          let (s, ps) := word s
          let reason := if !p.word.isEmpty then textOf ps
            else if p.emptyToo then "parameter not set or null" else "parameter not set"
          (s.fail 2 s!"{p.name}: {reason}", [])
      | some (.cutFront longest) =>
        let (s, ps) := word s
        let pattern := Pattern.ofMarked (markedOf ps)
        (s, piecesOf quoted (String.ofList (pattern.cutFront longest value.toList)))
      | some (.cutBack longest) =>
        let (s, ps) := word s
        let pattern := Pattern.ofMarked (markedOf ps)
        (s, piecesOf quoted (String.ofList (pattern.cutBack longest value.toList)))

end

/-- How many steps a script may take inside each other. -/
def maxSteps : Nat := 100000

def finish (start : Starter) (s : Session) : Session :=
  match s.atExit, s.ending with
  | some action, .exited status =>
    let s := { s with status, atExit := none, leaving := none }
    let after := run start maxSteps false (Script.read action) s
    if after.leaving.isSome then after else { after with status }
  | _, _ => s

def runText (start : Starter) (s : Session) (script : String) : Outcome :=
  (finish start (run start maxSteps false (Script.read script) s)).outcome

end EnvInject.Shell
