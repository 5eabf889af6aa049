import EnvInject.Secret.Collect

/-!
# Injection policies

What the user asks of an injection, and the strategy that follows from it.

* `Policy` : the settings of one invocation;
* `Policy.strategy` : strict filling first, then keeping what exists, else overwriting;
* `Policy.keyMode` : path keys unless verbatim keys are asked for.
-/

namespace EnvInject

/-- How secrets meet existing variables. -/
inductive Strategy where
  /-- A secret replaces an existing variable. -/
  | overwrite
  /-- An existing variable is kept. -/
  | preserve
  /-- Placeholders are filled and nothing else changes; one left over is an error. -/
  | fill
  deriving DecidableEq, Repr

/-- The value that marks a placeholder unless another one is chosen. -/
def defaultPlaceholder : String := "chamberme"

/-- What the user asks of one injection. -/
structure Policy where
  /-- Start from no variables instead of those of the calling process. -/
  pristine : Bool := false
  /-- Only fill placeholders, and fail if one is left. -/
  strict : Bool := false
  /-- Never overwrite an existing variable. -/
  noClobber : Bool := false
  /-- The value that marks a placeholder in strict mode. -/
  placeholder : String := defaultPlaceholder
  /-- Take keys as they are instead of as paths. -/
  verbatimKeys : Bool := false
  deriving DecidableEq, Repr

namespace Policy

def keyMode (policy : Policy) : KeyMode := if policy.verbatimKeys then .verbatim else .paths

/-- Strict mode takes precedence over keeping existing variables. -/
def strategy (policy : Policy) : Strategy :=
  if policy.strict then .fill else if policy.noClobber then .preserve else .overwrite

end Policy

end EnvInject
