import EnvInject.Environment
import EnvInject.Secret.Collect

/-!
# Runs

An invocation is a sequence of steps that others can see, ending in a value or an error.

* `Step` : what a run does: announce, tell a detail, fetch, report a collision, launch;
* `Run` : the steps in order and the result; `Run.bind` goes on only after success (`result_bind`,
  `bind_of_ok`, `bind_of_error`).
-/

namespace EnvInject

/-- What happened to a variable that a secret met. -/
inductive CollisionKind where
  | overwritten
  | preserved
  deriving DecidableEq, Repr

/-- A secret whose name existed when its service was applied. -/
structure Collision where
  service : String
  name : String
  kind : CollisionKind
  deriving DecidableEq, Repr

def Collision.message (collision : Collision) : String :=
  match collision.kind with
  | .overwritten =>
    s!"service {collision.service} overwriting environment variable {collision.name}"
  | .preserved =>
    s!"Not overwriting existing environment variable {collision.name} " ++
      s!"from service {collision.service}"

/-- What a run tells about itself on request. -/
inductive Notice where
  | pristineMode
  | strictMode (placeholder : String)
  | environment (names : List String)
  deriving DecidableEq, Repr

/-- What a run tells on the debug level: numbers alone. -/
inductive Detail where
  /-- How many secrets of a service are merged into the environment next. -/
  | merging (service : String) (count : Nat)
  /-- How many secrets of a service were collected for strict mode. -/
  | collected (service : String) (count : Nat)
  /-- How many placeholders strict mode fills. -/
  | filled (count : Nat)
  deriving DecidableEq, Repr

/-- One visible step of a run. -/
inductive Step where
  | announce (notice : Notice)
  | tell (detail : Detail)
  | fetch (service : String) (mode : KeyMode)
  | report (collision : Collision)
  | launch (command : String) (args : List String) (env : Environment)

/-- The steps of a run and its result. -/
structure Run (α : Type) where
  steps : List Step := []
  result : Except ExecError α

namespace Run

variable {α β : Type}

/-- Goes on with `next` after success; the steps of both follow each other. -/
def bind (run : Run α) (next : α → Run β) : Run β :=
  match run.result with
  | .ok a => { steps := run.steps ++ (next a).steps, result := (next a).result }
  | .error e => { steps := run.steps, result := .error e }

instance : Monad Run where
  pure a := { result := .ok a }
  bind := bind

def take (step : Step) : Run Unit := { steps := [step], result := .ok () }

def ofExcept (result : Except ExecError α) : Run α := { result }

@[simp] theorem result_pure (a : α) : (pure a : Run α).result = .ok a := rfl

@[simp] theorem steps_pure (a : α) : (pure a : Run α).steps = [] := rfl

@[simp] theorem result_ofExcept (result : Except ExecError α) : (ofExcept result).result = result :=
  rfl

/-- The result of a sequence is that of its parts; an error of the first part is passed on. -/
theorem result_bind (run : Run α) (next : α → Run β) :
    (run >>= next).result = run.result.bind fun a => (next a).result := by
  change (bind run next).result = _
  unfold bind
  cases run.result <;> rfl

theorem bind_of_ok {run : Run α} {a : α} (h : run.result = .ok a) (next : α → Run β) :
    run >>= next = { steps := run.steps ++ (next a).steps, result := (next a).result } := by
  change bind run next = _
  rw [bind, h]

theorem bind_of_error {run : Run α} {e : ExecError} (h : run.result = .error e)
    (next : α → Run β) : run >>= next = { steps := run.steps, result := .error e } := by
  change bind run next = _
  rw [bind, h]

def fetches (run : Run α) : List (String × KeyMode) :=
  run.steps.filterMap fun
    | .fetch service mode => some (service, mode)
    | _ => none

/-- What a run told on the debug level, in order. -/
def details (run : Run α) : List Detail :=
  run.steps.filterMap fun
    | .tell detail => some detail
    | _ => none

def reports (run : Run α) : List Collision :=
  run.steps.filterMap fun
    | .report collision => some collision
    | _ => none

def launches (run : Run α) : List (String × List String × Environment) :=
  run.steps.filterMap fun
    | .launch command args env => some (command, args, env)
    | _ => none

end Run

end EnvInject
