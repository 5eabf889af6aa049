import EnvInject.Snapshot

/-!
# Entry point

Gathers what an invocation looks at, runs the tool, and passes on what it writes and its exit code.
-/

open EnvInject

def gatherPath (tree : FileTree) (path : String) : IO FileTree := do
  let place := (← IO.currentDir) / path
  if path.contains (Char.ofNat 0) || !(← place.pathExists) then return tree
  if ← place.isDir then return tree.makeDirectory path
  try
    return tree.write path (← IO.FS.readBinFile place).toList (some { executable := true })
  catch _ => return tree

/-- Adds what is found at the paths that matter, until all of them are known. -/
def gather (args : List String) : (rounds : Nat) → Host → IO Host
  | 0, host => return host
  | rounds + 1, host => do
    let tree ← (Snapshot.paths host args).foldlM gatherPath host.tree
    gather args rounds { host with tree }

/-- Puts a byte in front of entries; a zero byte begins a new one. -/
def addByte (b : UInt8) : List Bytes → List Bytes
  | entry :: rest => if b == 0 then [] :: entry :: rest else (b :: entry) :: rest
  | [] => if b == 0 then [[]] else [[b]]

def variableEntries : IO (List Bytes) := do
  return (← IO.FS.readBinFile "/proc/self/environ").toList.foldr addByte []

def main (args : List String) : IO UInt32 := do
  let workingDirectory := (toString (← IO.currentDir)).splitOn "/" |>.filter (!·.isEmpty)
  let bare : FileTree := { workingDirectory }
  let tree := (Program.install bare).makeDirectory (Place.path workingDirectory)
  let host ← gather args 4
    { tree, captured := Environment.capture (← variableEntries) }
  let o := Tool.run host args
  (← IO.getStdout).write ⟨o.output.toArray⟩
  (← IO.getStderr).write ⟨o.errors.toArray⟩
  return o.ending.exitCode.toUInt32
