import EnvInject.Settings.Load

/-!
# Doctor

A look at whether secrets can be had: are the settings usable, is the store there, and is the
decrypting command installed if it is needed.

* `Doctor.examine` : what the look finds;
* `Report.passed` : whether all is well;
* `Report.text` : the findings as they are shown.
-/

namespace EnvInject.Doctor

inductive Decrypting where
  | installed
  | missing
  | notNeeded
  deriving DecidableEq, Repr

/-- What is found with usable settings. -/
structure Findings where
  /-- Where the store is. -/
  storePath : String
  storeFound : Bool
  decrypting : Decrypting
  deriving DecidableEq, Repr

structure Report where
  findings : Except SettingsError Findings
  verbatimKeys : Bool

/-- Whether the decrypting command is installed, if the settings need it. -/
def decrypting (host : Host) (settings : Settings) : Decrypting :=
  match settings.engine? with
  | .ok .sops =>
    match Command.find host Decryption.command with
    | .ok _ => .installed
    | .error _ => .missing
  | _ => .notNeeded

def examine (host : Host) (file store : Option String) : Report where
  findings := do
    let settings ← Settings.inForce host file store
    let storePath := settings.storePathOn host
    pure
      { storePath
        storeFound := host.tree.isDirectory storePath
        decrypting := decrypting host settings }
  verbatimKeys := Settings.verbatimKeys host

namespace Report

def passed (r : Report) : Bool :=
  match r.findings with
  | .ok f => f.storeFound && f.decrypting != .missing
  | .error _ => false

/-! ## Text -/

def storeLines (f : Findings) : List String :=
  if f.storeFound then [s!"2. Checking store directory... ✓ ({f.storePath})"]
  else
    ["2. Checking store directory... ✗", s!"   ❌ Store directory not found: {f.storePath}",
      s!"   💡 Create it or set ${Settings.storeVariable}"]

def decryptingLines (f : Findings) : List String :=
  let title := "3. Checking if 'sops' is installed... "
  match f.decrypting with
  | .installed => [title ++ "✓"]
  | .missing =>
    [title ++ "✗", "   ❌ 'sops' is not installed or not in PATH",
      "   📦 Install from: https://github.com/getsops/sops/releases"]
  | .notNeeded => [title ++ "⊘", "   ⚠️  Skipped (store engine is not sops)"]

def findingLines (r : Report) : List String :=
  let title := "1. Checking configuration... "
  match r.findings with
  | .ok f => (title ++ "✓") :: storeLines f ++ decryptingLines f
  | .error e => [title ++ "✗", s!"   ❌ {e.message}"]

def keyLine (r : Report) : String :=
  "4. Key mode: " ++
    if r.verbatimKeys then s!"flat (${Settings.verbatimVariable} is set)" else "hierarchical"

def verdict (r : Report) : String :=
  if r.passed then "✅ All checks passed! Your system is ready."
  else "❌ Some checks failed. Please fix the issues above."

def text (r : Report) : String :=
  let lines := ["🔍 Shadow Exec Doctor", "Checking prerequisites...", ""] ++ r.findingLines ++
    [r.keyLine, "", r.verdict]
  String.join (lines.map (· ++ "\n"))

end Report

end EnvInject.Doctor
