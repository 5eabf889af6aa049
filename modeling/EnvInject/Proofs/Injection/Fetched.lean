import EnvInject.Injection

/-!
# Fetched secrets

What an injection makes of its services once every one of them has been fetched.

* `fetched` : the services with the secrets of each, in order (`result_fetchAll`);
* `firstValue?`, `lastValue?` : what the first and the last set say of a name;
* `Policy.base`, `settle` : the environment to start from, and what a policy makes of the sets;
* `result_inject` : an injection fetches everything, and then only the sets matter.
-/

namespace EnvInject

/-- The services with the secrets of each, in order. -/
def fetched (secrets : String → SecretSet) (services : List String) : List (String × SecretSet) :=
  services.map fun service => (service, secrets service)

theorem result_fetchAll {source : Source} {mode : KeyMode} {detail : String → Nat → Detail}
    {secrets : String → SecretSet} {services : List String}
    (h : ∀ service ∈ services, source service mode = .ok (secrets service)) :
    (fetchAll source mode detail services).result = .ok (fetched secrets services) := by
  induction services with
  | nil => rfl
  | cons service rest ih =>
    have hhead : (fetch source mode detail service).result = .ok (secrets service) := by
      rw [fetch, h service List.mem_cons_self]
    have htail := ih fun other hother => h other (List.mem_cons_of_mem _ hother)
    rw [fetchAll, Run.result_bind, hhead, Except.bind, Run.result_bind, htail]
    rfl

/-! ## Values by position -/

section Values
variable (sets : List (String × SecretSet)) (name : String)

/-- The value of a name in the first set that has it. -/
def firstValue? : Option String := sets.findSome? fun f => f.2.get? name

/-- The value of a name in the last set that has it. -/
def lastValue? : Option String := sets.reverse.findSome? fun f => f.2.get? name

theorem firstValue?_cons (f : String × SecretSet) :
    firstValue? (f :: sets) name = (f.2.get? name).or (firstValue? sets name) := by
  rw [firstValue?, List.findSome?_cons]
  cases f.2.get? name <;> rfl

theorem lastValue?_cons (f : String × SecretSet) :
    lastValue? (f :: sets) name = (lastValue? sets name).or (f.2.get? name) := by
  rw [lastValue?, List.reverse_cons, List.findSome?_append, List.findSome?_singleton, ← lastValue?]

end Values

/-! ## The outcome of a policy -/

/-- The environment that secrets are merged into. -/
def Policy.base (policy : Policy) (real : Environment) : Environment :=
  if policy.pristine then .empty else real

theorem Policy.base_pristine {policy : Policy} (h : policy.pristine = true) (real : Environment) :
    policy.base real = .empty := by
  rw [base, if_pos h]

theorem Policy.base_inherited {policy : Policy} (h : policy.pristine = false) (real : Environment) :
    policy.base real = real := by
  rw [base, if_neg (by simp [h])]

/-- What a policy makes of the sets that were fetched. -/
def settle (real : Environment) (policy : Policy) (sets : List (String × SecretSet)) :
    Except ExecError Injection :=
  match policy.strategy with
  | .overwrite => .ok (overlay false (policy.base real) sets)
  | .preserve => .ok (overlay true (policy.base real) sets)
  | .fill => strictFill real policy (union sets)

theorem result_fill (real : Environment) (policy : Policy) (secrets : SecretSet) :
    (fill real policy secrets).result = strictFill real policy secrets := by
  unfold fill
  cases strictFill real policy secrets <;> rfl

theorem result_inject (real : Environment) (services : List String) (source : Source)
    (policy : Policy) :
    (inject real services source policy).result =
      (fetchAll source policy.keyMode policy.strategy.detail services).result.bind
        (settle real policy) := by
  rw [inject, Run.result_bind]
  congr 1
  funext sets
  rw [settle]
  cases policy.strategy with
  | overwrite => rfl
  | preserve => rfl
  | fill => exact result_fill real policy (union sets)

theorem result_inject_of_fetched {real : Environment} {services : List String} {source : Source}
    {policy : Policy} {secrets : String → SecretSet}
    (h : ∀ service ∈ services, source service policy.keyMode = .ok (secrets service)) :
    (inject real services source policy).result = settle real policy (fetched secrets services) := by
  rw [result_inject, result_fetchAll h, Except.bind]

theorem settle_strict (real : Environment) {policy : Policy} (sets : List (String × SecretSet))
    (h : policy.strict = true) : settle real policy sets = strictFill real policy (union sets) := by
  simp [settle, Policy.strategy, h]

/-- Without strict mode the sets are laid over the base. -/
theorem settle_lax (real : Environment) {policy : Policy} (sets : List (String × SecretSet))
    (h : policy.strict = false) :
    settle real policy sets = .ok (overlay policy.noClobber (policy.base real) sets) := by
  cases hkeep : policy.noClobber <;> simp [settle, Policy.strategy, h, hkeep]

/-! ## A register for closed instances -/

/-- Two services that share a name; the later one adds a name that sorts before it. -/
def sampleRegister : Register :=
  [("base", [("TOKEN", "one"), ("ZONE", "eu")]), ("override", [("TOKEN", "two"), ("API_KEY", "k")])]

def sampleSecrets (service : String) : SecretSet :=
  .ofPairs ((sampleRegister.lookup service).getD [])

theorem source_sampleRegister :
    ∀ service ∈ ["base", "override", "base"],
      sampleRegister.source service .verbatim = .ok (sampleSecrets service) := by
  simp only [List.forall_mem_cons]
  exact ⟨rfl, rfl, rfl, nofun⟩

end EnvInject
