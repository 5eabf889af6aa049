import EnvInject.Proofs.Injection.Overlay
import EnvInject.Proofs.Text.ByteOrder

/-!
# Merging without strict mode

The environment that results when every service could be fetched, under both ways to merge.

* `inject_overwriting` : each name has the value of the last service that defines it, else that of
  the base; overwritten names keep their place and new ones follow where they are first defined;
* `inject_preserving` : the base stays as it is and each new name has the value of the first service
  that defines it; the names are those of overwriting, in the same order.

The new names of one service come in byte order, which is the order of every set.
-/

namespace EnvInject

theorem result_inject_lax (real : Environment) {services : List String} {source : Source}
    (policy : Policy) {secrets : String → SecretSet}
    (hfetch : ∀ service ∈ services, source service policy.keyMode = .ok (secrets service))
    (hstrict : policy.strict = false) :
    (inject real services source policy).result =
      .ok (overlay policy.noClobber (policy.base real) (fetched secrets services)) := by
  rw [result_inject_of_fetched hfetch, settle_lax real _ hstrict]

/-- **Overwriting is exact.** -/
theorem inject_overwriting (real : Environment) (services : List String) (source : Source)
    (policy : Policy) (secrets : String → SecretSet)
    (hfetch : ∀ service ∈ services, source service policy.keyMode = .ok (secrets service))
    (hstrict : policy.strict = false) (hclobber : policy.noClobber = false) :
    ∃ injection, (inject real services source policy).result = .ok injection ∧
      (∀ name, injection.env.get? name =
        (lastValue? (fetched secrets services) name).or ((policy.base real).get? name)) ∧
      injection.env.names =
        (policy.base real).names ++ newNames (policy.base real) (fetched secrets services) ∧
      ∀ service ∈ services, Utf8.ByteOrdered (secrets service).names := by
  refine ⟨_, result_inject_lax real policy hfetch hstrict, ?_, names_overlay _ _ _, ?_⟩
  · intro name
    rw [get?_overlay, hclobber]
    rfl
  · intro service _
    exact (secrets service).names_byteOrdered

theorem inject_overwriting_repeated_service :
    ∃ injection,
      (inject (.ofPairs [("HOME", "/tmp"), ("TOKEN", "inherited")]) ["base", "override", "base"]
        sampleRegister.source { verbatimKeys := true }).result = .ok injection ∧
      injection.env.get? "TOKEN" = some "one" ∧ injection.env.get? "HOME" = some "/tmp" ∧
      injection.env.names = ["HOME", "TOKEN", "ZONE", "API_KEY"] := by
  obtain ⟨injection, hresult, hget, hnames, -⟩ :=
    inject_overwriting (.ofPairs [("HOME", "/tmp"), ("TOKEN", "inherited")])
      ["base", "override", "base"] sampleRegister.source { verbatimKeys := true } sampleSecrets
      source_sampleRegister rfl rfl
  refine ⟨injection, hresult, ?_, ?_, ?_⟩
  · rw [hget]
    cbv
  · rw [hget]
    cbv
  · rw [hnames]
    cbv

/-- **Keeping is exact.** -/
theorem inject_preserving (real : Environment) (services : List String) (source : Source)
    (policy : Policy) (secrets : String → SecretSet)
    (hfetch : ∀ service ∈ services, source service policy.keyMode = .ok (secrets service))
    (hstrict : policy.strict = false) (hkeep : policy.noClobber = true) :
    ∃ kept overwritten : Injection,
      (inject real services source policy).result = .ok kept ∧
      (inject real services source { policy with noClobber := false }).result = .ok overwritten ∧
      (policy.base real).pairs <+: kept.env.pairs ∧
      (∀ name ∉ (policy.base real).names,
        kept.env.get? name = firstValue? (fetched secrets services) name) ∧
      kept.env.names =
        (policy.base real).names ++ newNames (policy.base real) (fetched secrets services) ∧
      kept.env.names = overwritten.env.names := by
  have hover : (inject real services source { policy with noClobber := false }).result =
      .ok (overlay false (policy.base real) (fetched secrets services)) :=
    result_inject_lax real { policy with noClobber := false } hfetch hstrict
  have hkept := result_inject_lax real policy hfetch hstrict
  rw [hkeep] at hkept
  refine ⟨_, _, hkept, hover, prefix_overlay _ _, ?_, names_overlay _ _ _, ?_⟩
  · intro name hname
    rw [get?_overlay, (Environment.get?_eq_none_iff _ _).2 hname, none_prevailing]
    rfl
  · rw [names_overlay, names_overlay]

theorem inject_preserving_repeated_service :
    ∃ kept overwritten : Injection,
      (inject (.ofPairs [("HOME", "/tmp"), ("ZONE", "us")]) ["base", "override", "base"]
        sampleRegister.source { noClobber := true, verbatimKeys := true }).result = .ok kept ∧
      (inject (.ofPairs [("HOME", "/tmp"), ("ZONE", "us")]) ["base", "override", "base"]
        sampleRegister.source { verbatimKeys := true }).result = .ok overwritten ∧
      [("HOME", "/tmp"), ("ZONE", "us")] <+: kept.env.pairs ∧
      kept.env.get? "TOKEN" = some "one" ∧
      kept.env.names = ["HOME", "ZONE", "TOKEN", "API_KEY"] ∧
      overwritten.env.names = ["HOME", "ZONE", "TOKEN", "API_KEY"] := by
  obtain ⟨kept, overwritten, hkept, hover, hprefix, hget, hnames, heq⟩ :=
    inject_preserving (.ofPairs [("HOME", "/tmp"), ("ZONE", "us")]) ["base", "override", "base"]
      sampleRegister.source { noClobber := true, verbatimKeys := true } sampleSecrets
      source_sampleRegister rfl rfl
  have hlist : kept.env.names = ["HOME", "ZONE", "TOKEN", "API_KEY"] := by
    rw [hnames]
    cbv
  refine ⟨kept, overwritten, hkept, hover, hprefix, ?_, hlist, heq ▸ hlist⟩
  rw [hget "TOKEN" (by decide)]
  cbv

end EnvInject
