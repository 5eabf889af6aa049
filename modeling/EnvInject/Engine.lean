/-!
# Engines

How the documents of a store are read.

* `Engine.ofText?` : reads the name of an engine.
-/

namespace EnvInject

/-- How the documents of a store are read. -/
inductive Engine where
  /-- As they are written. -/
  | file
  /-- Decrypted by the `sops` command. -/
  | sops
  deriving DecidableEq, Repr

namespace Engine

def text : Engine → String
  | file => "file"
  | sops => "sops"

def ofText? (s : String) : Option Engine :=
  if s = "file" then some file else if s = "sops" then some sops else none

def unsupported (s : String) : String :=
  s!"Unsupported store engine: '{s}'. Expected 'file' or 'sops'."

end Engine

end EnvInject
