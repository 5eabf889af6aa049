import EnvInject.Policy
import EnvInject.Run
import EnvInject.Source

/-!
# Injecting secrets

The secrets of several services are fetched in order and merged into an environment.

* `fetchAll` : fetches each service once, up to the first failure;
* `overlay` : applies the sets in order, with a collision for each name that was there;
* `union`, `fillPlaceholders`, `fill` : strict mode;
* `inject` : the injection that a policy asks for.
-/

namespace EnvInject

/-- The environment that results, and the collisions met on the way. -/
structure Injection where
  env : Environment
  collisions : List Collision := []

def Strategy.detail : Strategy → (service : String) → (count : Nat) → Detail
  | .overwrite | .preserve => .merging
  | .fill => .collected

/-- Fetches the secrets of one service, and tells how many there are. -/
def fetch (source : Source) (mode : KeyMode) (detail : String → Nat → Detail) (service : String) :
    Run SecretSet :=
  match source service mode with
  | .error e => { steps := [.fetch service mode], result := .error (.store e) }
  | .ok set =>
    { steps := [.fetch service mode, .tell (detail service set.entries.length)]
      result := .ok set }

/-- Fetches the services in order; the first failure ends it. -/
def fetchAll (source : Source) (mode : KeyMode) (detail : String → Nat → Detail) :
    List String → Run (List (String × SecretSet))
  | [] => pure []
  | service :: rest => do
    let set ← fetch source mode detail service
    let sets ← fetchAll source mode detail rest
    pure ((service, set) :: sets)

/-! ## Overwriting and preserving -/

/-- Applies one secret. A name that is there is a collision; `keep` says whether it keeps its
value. -/
def applySecret (keep : Bool) (service : String) (state : Injection) (secret : String × String) :
    Injection :=
  if state.env.contains secret.1 then
    { env := if keep then state.env else state.env.insert secret.1 secret.2
      collisions := state.collisions ++
        [⟨service, secret.1, if keep then .preserved else .overwritten⟩] }
  else { state with env := state.env.insert secret.1 secret.2 }

/-- Applies the secrets of one service in the order of their names. -/
def applySet (keep : Bool) (state : Injection) (fetched : String × SecretSet) : Injection :=
  fetched.2.entries.foldl (applySecret keep fetched.1) state

/-- Applies the sets in order, on top of `base`. -/
def overlay (keep : Bool) (base : Environment) (sets : List (String × SecretSet)) : Injection :=
  sets.foldl (applySet keep) { env := base }

/-! ## Filling placeholders -/

/-- The secrets of all sets; where several have a name, those of the last. -/
def union (sets : List (String × SecretSet)) : SecretSet :=
  sets.foldl (fun acc fetched => acc.extend fetched.2) .empty

/-- The first variable that is a placeholder without a secret. -/
def firstUnfilled? (placeholder : String) (secrets : SecretSet) (env : Environment) :
    Option String :=
  (env.pairs.find? fun p => p.2 == placeholder && (secrets.get? p.1).isNone).map Prod.fst

/-- Puts secrets in place of placeholders; order and other variables stay. -/
def fillPlaceholders (placeholder : String) (secrets : SecretSet) (env : Environment) :
    Environment where
  pairs := env.pairs.map fun p =>
    (p.1, if p.2 = placeholder then (secrets.get? p.1).getD p.2 else p.2)
  nodup := by
    rw [List.map_map]
    exact env.nodup

/-- Fills the placeholders of `real`. The check is on `real` also where the result holds the secrets
alone. -/
def strictFill (real : Environment) (policy : Policy) (secrets : SecretSet) :
    Except ExecError Injection :=
  match firstUnfilled? policy.placeholder secrets real with
  | some name => .error (.unfilled name)
  | none => .ok
    { env := if policy.pristine then Environment.ofPairs secrets.entries
        else fillPlaceholders policy.placeholder secrets real }

/-- Fills the placeholders of `real`, and tells how many there are once none is left over. -/
def fill (real : Environment) (policy : Policy) (secrets : SecretSet) : Run Injection := do
  let injection ← Run.ofExcept (strictFill real policy secrets)
  Run.take (.tell (.filled (real.pairs.countP (·.2 == policy.placeholder))))
  pure injection

/-- Merges the secrets of `services` into an environment as `policy` asks. -/
def inject (real : Environment) (services : List String) (source : Source) (policy : Policy) :
    Run Injection := do
  let sets ← fetchAll source policy.keyMode policy.strategy.detail services
  let base := if policy.pristine then .empty else real
  match policy.strategy with
  | .overwrite => pure (overlay false base sets)
  | .preserve => pure (overlay true base sets)
  | .fill => fill real policy (union sets)

end EnvInject
