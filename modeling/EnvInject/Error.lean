/-!
# Errors

Why an invocation fails. Every error ends the invocation; its message is what the user reads, its
exit code what the caller of the tool sees.

* `StoreError` : the secrets of a service could not be had;
* `LaunchError` : the command could not be started;
* `ExecError` : one of these, a rejected service name, or an unfilled placeholder;
* `message`, `exitCode` : text and exit code of each.
-/

namespace EnvInject

/-- Why the secrets of a service could not be had. -/
inductive StoreError where
  /-- No document of the service exists; `path` says where one was looked for. -/
  | notFound (service path : String)
  /-- The document could not be read. -/
  | unreadable (service cause : String)
  /-- The document does not hold usable secrets. -/
  | malformed (service cause : String)
  /-- The decrypting command failed. -/
  | undecryptable (service cause : String)
  /-- Two paths of the service stand for one variable name. -/
  | nameClash (service name first second : String)
  deriving DecidableEq, Repr

def StoreError.message : StoreError → String
  | notFound service path => s!"no secrets found for service '{service}' (looked for {path})"
  | unreadable service cause => s!"failed to read secrets for service '{service}': {cause}"
  | malformed service cause => s!"failed to parse secrets for service '{service}': {cause}"
  | undecryptable service cause => s!"failed to decrypt secrets for service '{service}': {cause}"
  | nameClash service name first second =>
    s!"paths '{first}' and '{second}' in service '{service}' both map to variable {name}"

/-- Why a command could not be started. -/
inductive LaunchError where
  | notFound (command : String)
  | permissionDenied (command : String)
  /-- The operating system refused for the reason given. -/
  | refused (command cause : String)
  deriving DecidableEq, Repr

def LaunchError.message : LaunchError → String
  | notFound command => s!"command not found: {command}"
  | permissionDenied command => s!"permission denied: {command}"
  | refused command cause => s!"failed to run {command}: {cause}"

/-- Why an invocation failed. -/
inductive ExecError where
  /-- A service name was rejected before anything was fetched. -/
  | invalidService (service reason : String)
  | store (error : StoreError)
  /-- Strict mode found a placeholder that no secret fills. -/
  | unfilled (name : String)
  | launch (error : LaunchError)
  deriving DecidableEq, Repr

namespace ExecError

def message : ExecError → String
  | invalidService service reason => s!"invalid service '{service}': {reason}"
  | store error => error.message
  | unfilled name => s!"extra unfilled env var {name}"
  | launch error => error.message

/-- The exit code when no command was started because the injection failed. -/
def injectionFailed : Nat := 125

/-- The exit code when the command exists and cannot be executed. -/
def notExecutable : Nat := 126

/-- The exit code when there is no such command. -/
def commandNotFound : Nat := 127

def exitCode : ExecError → Nat
  | invalidService .. | store _ | unfilled _ => injectionFailed
  | launch (.notFound _) => commandNotFound
  | launch (.permissionDenied _) | launch (.refused ..) => notExecutable

end ExecError

end EnvInject
