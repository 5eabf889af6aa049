import EnvInject.Proofs.Injection.Overlay
import EnvInject.Proofs.Injection.Steps
import EnvInject.Proofs.Injection.Strict

/-!
# Pristine injection

A pristine injection starts from no variables. The real environment is asked for its placeholders in
strict mode, which decides whether the injection fails, and for nothing else.

* `inject_congr` : environments that settle all sets alike cannot be told apart;
* `strictFill_pristine`, `settle_pristine_strict` : strict mode either gives the secrets alone or
  fails over a placeholder;
* `mem_pairs_settle` : every variable that results is a secret of some set;
* `inject_pristine_isolates` : what two real environments may change, and where variables come from.
-/

namespace EnvInject

section Sets
variable {sets : List (String × SecretSet)} {name value : String}

theorem exists_of_lastValue? (h : lastValue? sets name = some value) :
    ∃ f ∈ sets, (name, value) ∈ f.2.entries := by
  obtain ⟨f, hf, hvalue⟩ := List.exists_of_findSome?_eq_some h
  exact ⟨f, List.mem_reverse.1 hf, (f.2.get?_eq_some_iff name value).1 hvalue⟩

theorem exists_of_firstValue? (h : firstValue? sets name = some value) :
    ∃ f ∈ sets, (name, value) ∈ f.2.entries := by
  obtain ⟨f, hf, hvalue⟩ := List.exists_of_findSome?_eq_some h
  exact ⟨f, hf, (f.2.get?_eq_some_iff name value).1 hvalue⟩

/-- Laid over nothing, the sets give a name one of their own values. -/
theorem exists_of_get?_overlay {keep : Bool}
    (h : (overlay keep .empty sets).env.get? name = some value) :
    ∃ f ∈ sets, (name, value) ∈ f.2.entries := by
  rw [get?_overlay, Environment.get?_empty, none_prevailing] at h
  cases keep with
  | true => exact exists_of_firstValue? h
  | false => exact exists_of_lastValue? h

end Sets

/-- Strict mode failed, over a variable of `real` that is a placeholder. -/
def FailedOver (real : Environment) (placeholder : String) (result : Except ExecError Injection) :
    Prop :=
  ∃ name, result = .error (.unfilled name) ∧ real.get? name = some placeholder

section Pristine
variable {policy : Policy} (hpristine : policy.pristine = true)
include hpristine

/-- Strict mode asks the real environment only whether it has a placeholder without a secret. -/
theorem strictFill_pristine (real : Environment) (secrets : SecretSet) :
    strictFill real policy secrets = .ok { env := .ofPairs secrets.entries } ∨
      FailedOver real policy.placeholder (strictFill real policy secrets) := by
  rcases strictFill_cases real policy secrets with ⟨name, hunfilled, herror⟩ | ⟨-, hok⟩
  · exact .inr ⟨name, herror, hunfilled.1⟩
  · rw [if_pos hpristine] at hok
    exact .inl hok

theorem settle_pristine_lax (hstrict : policy.strict = false) (real real' : Environment)
    (sets : List (String × SecretSet)) : settle real policy sets = settle real' policy sets := by
  rw [settle_lax real sets hstrict, settle_lax real' sets hstrict,
    policy.base_pristine hpristine real, policy.base_pristine hpristine real']

theorem settle_pristine_strict (hstrict : policy.strict = true) (real real' : Environment)
    (sets : List (String × SecretSet)) :
    settle real policy sets = settle real' policy sets ∨
      FailedOver real policy.placeholder (settle real policy sets) ∨
      FailedOver real' policy.placeholder (settle real' policy sets) := by
  rw [settle_strict real sets hstrict, settle_strict real' sets hstrict]
  rcases strictFill_pristine hpristine real (union sets) with hleft | hleft
  · rcases strictFill_pristine hpristine real' (union sets) with hright | hright
    · exact .inl (hleft.trans hright.symm)
    · exact .inr (.inr hright)
  · exact .inr (.inl hleft)

/-- Every variable that results is a secret of some set. -/
theorem mem_pairs_settle {real : Environment} {sets : List (String × SecretSet)}
    {injection : Injection} (h : settle real policy sets = .ok injection) {p : String × String}
    (hmem : p ∈ injection.env.pairs) : ∃ f ∈ sets, p ∈ f.2.entries := by
  have hvalue : injection.env.get? p.1 = some p.2 :=
    (Environment.get?_eq_some_iff _ _ _).2 hmem
  cases hstrict : policy.strict with
  | false =>
    rw [settle_lax real sets hstrict, policy.base_pristine hpristine] at h
    cases h
    exact exists_of_get?_overlay hvalue
  | true =>
    rw [settle_strict real sets hstrict] at h
    rcases strictFill_pristine hpristine real (union sets) with hok | ⟨name, herror, -⟩
    · rw [hok] at h
      cases h
      rw [(holdsAlone_ofPairs (union sets)).get?, get?_union] at hvalue
      exact exists_of_lastValue? hvalue
    · rw [herror] at h
      cases h

end Pristine

section Isolation
variable {real real' : Environment} {policy : Policy} (services : List String) (source : Source)

/-- Without strict mode environments that settle all sets alike cannot be told apart. -/
theorem inject_congr (hstrict : policy.strict = false)
    (h : ∀ sets, settle real policy sets = settle real' policy sets) :
    inject real services source policy = inject real' services source policy := by
  have hsettle : settle real policy = settle real' policy := funext h
  rw [inject_eq, inject_eq, hsettle, settledSteps_lax real hstrict, settledSteps_lax real' hstrict]

theorem inject_pristine_strict (hpristine : policy.pristine = true)
    (hstrict : policy.strict = true) (real real' : Environment) :
    (inject real services source policy).result = (inject real' services source policy).result ∨
      FailedOver real policy.placeholder (inject real services source policy).result ∨
      FailedOver real' policy.placeholder (inject real' services source policy).result := by
  rw [result_inject, result_inject]
  -- the fetches do not see the environment
  cases (fetchAll source policy.keyMode policy.strategy.detail services).result with
  | error e => exact .inl rfl
  | ok sets => exact settle_pristine_strict hpristine hstrict real real' sets

/-- **A pristine injection shows nothing of the real environment but a failure of strict mode.** -/
theorem inject_pristine_isolates (real real' : Environment) (hpristine : policy.pristine = true) :
    (policy.strict = false →
      inject real services source policy = inject real' services source policy) ∧
    (policy.strict = true →
      (∀ injection injection',
        (inject real services source policy).result = .ok injection →
        (inject real' services source policy).result = .ok injection' →
          injection = injection') ∧
      ((inject real services source policy).result ≠
          (inject real' services source policy).result →
        FailedOver real policy.placeholder (inject real services source policy).result ∨
        FailedOver real' policy.placeholder (inject real' services source policy).result)) ∧
    ∀ injection, (inject real services source policy).result = .ok injection →
      ∀ p ∈ injection.env.pairs, ∃ service ∈ services, ∃ set,
        source service policy.keyMode = .ok set ∧ p ∈ set.entries := by
  refine ⟨?_, ?_, ?_⟩
  · intro hstrict
    exact inject_congr services source hstrict (settle_pristine_lax hpristine hstrict real real')
  · intro hstrict
    rcases inject_pristine_strict services source hpristine hstrict real real' with hsame | hfailed
    · refine ⟨fun injection injection' h h' => ?_, fun hne => absurd hsame hne⟩
      exact Except.ok.inj (h.symm.trans (hsame.trans h'))
    · refine ⟨fun injection injection' h h' => ?_, fun _ => hfailed⟩
      rcases hfailed with ⟨name, herror, -⟩ | ⟨name, herror, -⟩
      · cases h.symm.trans herror
      · cases h'.symm.trans herror
  · intro injection h p hp
    obtain ⟨sets, hsets, hsettle⟩ := inject_eq_ok_iff.1 h
    obtain ⟨f, hf, hentry⟩ := mem_pairs_settle hpristine hsettle hp
    obtain ⟨hservice, hsource⟩ := fetchAll_eq_ok hsets f hf
    exact ⟨f.1, hservice, f.2, hsource, hentry⟩

end Isolation

theorem inject_pristine_isolates_unfilled :
    let policy (strict : Bool) : Policy :=
      { pristine := true, strict := strict, verbatimKeys := true }
    let run (real : Environment) (strict : Bool) :=
      inject real ["base", "override"] sampleRegister.source (policy strict)
    let extra : Environment := .ofPairs [("TOKEN", "chamberme"), ("EXTRA", "chamberme")]
    let plain : Environment := .ofPairs [("HOME", "/tmp"), ("TOKEN", "chamberme")]
    run extra false = run plain false ∧
    FailedOver extra "chamberme" (run extra true).result ∧
    ∃ injection, (run plain true).result = .ok injection ∧
      injection.env.pairs = [("API_KEY", "k"), ("TOKEN", "two"), ("ZONE", "eu")] ∧
      ∀ p ∈ injection.env.pairs, ∃ service ∈ ["base", "override"], ∃ set,
        sampleRegister.source service .verbatim = .ok set ∧ p ∈ set.entries := by
  intro policy run extra plain
  have hpristine (strict : Bool) : (policy strict).pristine = true := rfl
  have hok : (run plain true).result =
      .ok { env := .ofPairs (union (fetched sampleSecrets ["base", "override"])).entries } := by
    rfl
  obtain ⟨hlax, -, -⟩ := inject_pristine_isolates ["base", "override"] sampleRegister.source
    extra plain (hpristine false)
  obtain ⟨-, hstrict, -⟩ := inject_pristine_isolates ["base", "override"] sampleRegister.source
    extra plain (hpristine true)
  obtain ⟨-, -, hpairs⟩ := inject_pristine_isolates ["base", "override"] sampleRegister.source
    plain extra (hpristine true)
  have hne : (run extra true).result ≠ (run plain true).result := by
    have herror : (run extra true).result = .error (.unfilled "EXTRA") := by
      rfl
    rw [herror, hok]
    exact nofun
  refine ⟨hlax rfl, ?_, _, hok, by cbv, hpairs _ hok⟩
  rcases (hstrict rfl).2 hne with hfailed | ⟨name, herror, -⟩
  · exact hfailed
  · cases hok.symm.trans herror

end EnvInject
