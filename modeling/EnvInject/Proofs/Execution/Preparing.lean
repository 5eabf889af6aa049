import EnvInject.Proofs.Execution.Stages
import EnvInject.Proofs.Injection.Fetching
import EnvInject.Proofs.Injection.Strict

/-!
# What stands in the way of a launch

Nothing but a bad name, a service that cannot be fetched and, in strict mode, a placeholder without a
secret keeps an execution from launching its command.

* `settle_succeeds_iff`, `inject_succeeds_iff` : past the fetches only placeholders are in the way;
* `Ready` : none of the three is there;
* `prepare_succeeds_iff` : preparing succeeds just then.
-/

namespace EnvInject

variable {real : Environment} {services : List String} {source : Source} {policy : Policy}

theorem not_unfilled_union_iff {placeholder : String} {sets : List (String × SecretSet)}
    {name : String} :
    ¬ Unfilled real placeholder (union sets).get? name ↔
      (real.get? name = some placeholder → ∃ f ∈ sets, name ∈ f.2.names) := by
  rw [← mem_names_union_iff, SecretSet.mem_names_iff, Unfilled, not_and]

/-- Only strict mode can fail over sets that are there. -/
theorem settle_succeeds_iff {sets : List (String × SecretSet)} :
    (∃ injection, settle real policy sets = .ok injection) ↔
      (policy.strict = true → ∀ name, real.get? name = some policy.placeholder →
        ∃ f ∈ sets, name ∈ f.2.names) := by
  cases hstrict : policy.strict with
  | false =>
    refine ⟨nofun, fun _ => ?_⟩
    rw [settle_lax real sets hstrict]
    exact ⟨_, rfl⟩
  | true =>
    rw [settle_strict real sets hstrict]
    rcases strictFill_cases real policy (union sets) with ⟨name, hname, herror⟩ | ⟨hfilled, hok⟩
    · rw [herror]
      refine ⟨nofun, fun h => ?_⟩
      exact absurd hname (not_unfilled_union_iff.2 (h rfl name))
    · rw [hok]
      exact ⟨fun _ _ name => not_unfilled_union_iff.1 (hfilled name), fun _ => ⟨_, rfl⟩⟩

/-- The services are well named, each of them can be fetched, and in strict mode one of them has a
secret for every placeholder. -/
structure Ready (real : Environment) (services : List String) (source : Source) (policy : Policy) :
    Prop where
  named : ∀ service ∈ services, Service.check service = .ok ()
  fetched : ∀ service ∈ services, ∃ set, source service policy.keyMode = .ok set
  filled : policy.strict = true → ∀ name, real.get? name = some policy.placeholder →
    ∃ service ∈ services, ∃ set, source service policy.keyMode = .ok set ∧ name ∈ set.names

/-- What was fetched, as a function of the service. -/
theorem exists_secrets {mode : KeyMode}
    (h : ∀ service ∈ services, ∃ set, source service mode = .ok set) :
    ∃ secrets : String → SecretSet,
      ∀ service ∈ services, source service mode = .ok (secrets service) := by
  refine ⟨fun service => (source service mode).toOption.getD .empty, fun service hservice => ?_⟩
  obtain ⟨set, hset⟩ := h service hservice
  simp only [hset, Except.toOption, Option.getD_some]

theorem inject_succeeds_iff {secrets : String → SecretSet}
    (h : ∀ service ∈ services, source service policy.keyMode = .ok (secrets service)) :
    (∃ injection, (inject real services source policy).result = .ok injection) ↔
      (policy.strict = true → ∀ name, real.get? name = some policy.placeholder →
        ∃ service ∈ services, name ∈ (secrets service).names) := by
  rw [result_inject_of_fetched h, settle_succeeds_iff]
  simp only [EnvInject.fetched, List.mem_map, exists_exists_and_eq_and]

theorem prepare_succeeds_iff :
    (∃ injection, (prepare real services source policy).result = .ok injection) ↔
      Ready real services source policy := by
  cases hcheck : checkServices services with
  | error e =>
    rw [prepare_of_rejected hcheck]
    refine ⟨nofun, fun h => ?_⟩
    cases hcheck.symm.trans (checkServices_eq_ok_iff.2 h.named)
  | ok =>
    rw [prepare_of_checked hcheck]
    rcases allFetched_or_firstRefused source policy.keyMode services with
      hall | ⟨before, service, after, cause, rfl, hbefore, hservice⟩
    · obtain ⟨secrets, hsecrets⟩ := exists_secrets hall
      rw [inject_succeeds_iff hsecrets]
      constructor
      · intro hfilled
        refine ⟨checkServices_eq_ok_iff.1 hcheck, hall, fun hstrict name hname => ?_⟩
        obtain ⟨service, hservice, hsecret⟩ := hfilled hstrict name hname
        exact ⟨service, hservice, secrets service, hsecrets service hservice, hsecret⟩
      · intro hready hstrict name hname
        obtain ⟨service, hservice, set, hset, hsecret⟩ := hready.filled hstrict name hname
        cases (hsecrets service hservice).symm.trans hset
        exact ⟨service, hservice, hsecret⟩
    · rw [result_inject, (fetchAll_of_firstRefused _ hbefore hservice _).2]
      refine ⟨nofun, fun h => ?_⟩
      obtain ⟨set, hset⟩ := h.fetched service (by simp)
      cases hservice.symm.trans hset

end EnvInject
