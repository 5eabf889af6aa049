import EnvInject.Command.Shell.Session

/-!
# Redirections

* `openStream` : opens the file of a redirection, or finds the stream that it names;
* `perform` : runs a part of a script with its streams redirected.
-/

namespace EnvInject.Shell

def openSink (s : Session) (streams : Streams) (stream : Nat) (append : Bool) (path : String) :
    Except String (Session × Streams) :=
  match streams.pathDestination path with
  | .file path =>
    let content := match s.tree.read path with
      | .ok content => if append then content else []
      | .error _ => []
    let parent := Place.path (s.tree.placeOf path).dropLast
    if s.tree.isDirectory path then .error s!"cannot create {path}: Is a directory"
    else if s.tree.isDirectory parent then
      .ok ({ s with tree := s.tree.write path content }, streams.send stream (.file path))
    else .error s!"cannot create {path}: Directory nonexistent"
  | d => .ok (s, streams.send stream d)

def openSource (s : Session) (streams : Streams) (path : String) : Except String Streams :=
  if path == Streams.nullPath then .ok { streams with input := some [] }
  else match s.tree.read path with
    | .ok content => .ok { streams with input := some content }
    | .error .isADirectory => .ok { streams with input := some [] }
    | .error e => .error (Session.cannotOpen path e)

def openStream (s : Session) (streams : Streams) (stream : Nat) (channel : Channel)
    (word : String) : Except String (Session × Streams) :=
  match channel with
  | .source => do pure (s, ← openSource s streams word)
  | .sink append => openSink s streams stream append word
  | .document _ => .ok (s, { streams with input := some (Utf8.encode word) })
  | .duplicate =>
    match word.toNat? with
    | some n => .ok (s, if stream = 0 then streams else streams.send stream (streams.destination n))
    | none =>
      if word == "-" then .ok (s, streams.send stream .nowhere)
      else .error "Bad fd number"

def deliver (streams : Streams) (s : Session) (write : Nat × Bytes) : Session :=
  match streams.destination write.1 with
  | .stream n => { s with writes := (n, write.2) :: s.writes }
  | .nowhere => s
  | .file path =>
    { s with tree := s.tree.write path (((s.tree.read path).toOption.getD []) ++ write.2) }

/-- Runs `action` with its streams redirected. -/
def perform (s : Session) (streams : Streams) (action : Session → Session) : Session :=
  let before := s.input
  let after := action { s with writes := [], input := streams.input.getD s.input }
  let done := after.writes.reverse.foldl (deliver streams) { after with writes := s.writes }
  if streams.input.isSome then { done with input := before } else done

end EnvInject.Shell
