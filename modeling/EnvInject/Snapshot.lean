import EnvInject.Tool

/-!
# What an invocation looks at

The paths of the files that matter to an invocation follow from its arguments and from what is known
of the host: the settings tell where the store is, and the search path where a command may be.

* `Snapshot.paths` : the paths that matter, as far as they are known.
-/

namespace EnvInject.Snapshot

def commandPaths (host : Host) (command : String) : List String :=
  match Command.candidates host command with
  | .ok paths => paths
  | .error _ => []

def interpreterPaths (host : Host) (path : String) : List String :=
  match host.tree.read path with
  | .ok content => (interpreter? content).toList.map Prod.fst
  | .error _ => []

def storePaths (store : Store) : Task → List String
  | .doctor => [store.root]
  | .exec task => store.root :: task.services.flatMap store.candidates

def commands : Task → List String
  | .doctor => [Decryption.command]
  | .exec task => [Decryption.command, task.command]

/-- The paths that matter to an invocation, as far as the host is known. -/
def paths (host : Host) (args : List String) : List String :=
  match Tool.commandLine host args with
  | .error _ => []
  | .ok line =>
    let documents := match Tool.openStore host line with
      | .ok (_, store) => storePaths store line.task
      | .error _ => []
    let programs := (commands line.task).flatMap (commandPaths host)
    line.config.getD Settings.defaultFile :: documents ++ programs ++
      programs.flatMap (interpreterPaths host)

end EnvInject.Snapshot
