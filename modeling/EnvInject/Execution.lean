import EnvInject.Injection
import EnvInject.Service

/-!
# Executing a command with secrets

Every service name is checked before anything is fetched; then the secrets are injected, collisions
are reported, and the command is launched with the environment that results.

* `prepare` : checks and injects;
* `execute` : the whole invocation; its value is the exit code of the command.
-/

namespace EnvInject

/-- Starts a command with an environment and gives its exit code. -/
abbrev Launcher :=
  (command : String) → (args : List String) → (env : Environment) → Except LaunchError Int

/-- What to execute, and how to inject. -/
structure Request where
  services : List String
  command : String
  args : List String := []
  policy : Policy := {}

/-- Checks the services in order; the first bad one is the error. -/
def checkServices : List String → Except ExecError Unit
  | [] => .ok ()
  | service :: rest => do
    Service.check service
    checkServices rest

/-- Checks every service, then injects their secrets. -/
def prepare (real : Environment) (services : List String) (source : Source) (policy : Policy) :
    Run Injection := do
  Run.ofExcept (checkServices services)
  if policy.pristine then Run.take (.announce .pristineMode)
  if policy.strict then Run.take (.announce (.strictMode policy.placeholder))
  inject real services source policy

def reportAll (collisions : List Collision) : Run Unit :=
  { steps := collisions.map .report, result := .ok () }

def launch (launcher : Launcher) (command : String) (args : List String) (env : Environment) :
    Run Int :=
  { steps := [.launch command args env]
    result := (launcher command args env).mapError .launch }

/-- One invocation from the check of the services to the exit code of the command. -/
def execute (request : Request) (real : Environment) (source : Source) (launcher : Launcher) :
    Run Int := do
  let injection ← prepare real request.services source request.policy
  reportAll injection.collisions
  Run.take (.announce (.environment injection.env.names))
  launch launcher request.command request.args injection.env

end EnvInject
