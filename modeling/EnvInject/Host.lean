import EnvInject.Environment
import EnvInject.File.Tree

/-!
# Hosts

What an invocation finds around it: files, the variables of its process, and the home directory of
the account.

* `Host.get?` : a variable of the process;
* `Host.home` : the home directory;
* `Host.workingDirectory` : the working directory as a path.
-/

namespace EnvInject

/-- What an invocation finds around it. -/
structure Host where
  tree : FileTree := {}
  captured : Environment.Captured := {}
  /-- The home directory of the account, for when no variable tells. -/
  accountHome : String := "/root"

namespace Host

def get? (host : Host) (name : String) : Option String := host.captured.environment.get? name

def nonEmpty? (host : Host) (name : String) : Option String :=
  (host.get? name).filter (!·.isEmpty)

def home (host : Host) : String := (host.nonEmpty? "HOME").getD host.accountHome

def workingDirectory (host : Host) : String := Place.path host.tree.workingDirectory

end Host

end EnvInject
