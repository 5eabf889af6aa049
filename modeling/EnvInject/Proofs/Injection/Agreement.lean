import EnvInject.Proofs.Environment.Equality
import EnvInject.Proofs.Injection.Overlay
import EnvInject.Proofs.Injection.Steps
import EnvInject.Proofs.Injection.Strict

/-!
# Strict mode against overwriting

Strict mode takes its secrets from a union in which later services prevail; overwriting applies one
service after the other. A name has the same secret in both, so the two ways differ only in what they
do with the variables that are no placeholders and with the names that are new.

* `get?_overlay_union` : overwriting gives what the union says, and the base where it says nothing;
* `strictFill_eq_ok` : what strict mode gives when it does not fail;
* `Filled.get?_eq` : filling leaves a variable or takes the secret of its name;
* `inject_strict_agrees` : where strict mode succeeds, overwriting does, and they agree.

Only a pristine environment shows that the two put new names in different orders.
-/

namespace EnvInject

/-- Set after set or all at once, a name gets the same secret. -/
theorem get?_overlay_union (base : Environment) (sets : List (String × SecretSet)) (name : String) :
    (overlay false base sets).env.get? name =
      ((union sets).get? name).or (base.get? name) := by
  rw [get?_overlay, get?_union]
  rfl

theorem strictFill_eq_ok {real : Environment} {policy : Policy} {secrets : SecretSet}
    {injection : Injection} (h : strictFill real policy secrets = .ok injection) :
    (∀ name, ¬ Unfilled real policy.placeholder secrets.get? name) ∧
      injection.env = if policy.pristine then Environment.ofPairs secrets.entries
        else fillPlaceholders policy.placeholder secrets real := by
  rcases strictFill_cases real policy secrets with ⟨name, -, herror⟩ | ⟨hfilled, hok⟩
  · cases h.symm.trans herror
  · cases h.symm.trans hok
    exact ⟨hfilled, rfl⟩

theorem Filled.get?_eq {real env : Environment} {placeholder : String}
    {secrets : String → Option String} (h : Filled real placeholder secrets env) (name : String) :
    env.get? name = if real.get? name = some placeholder then secrets name else real.get? name := by
  by_cases hreal : real.get? name = some placeholder
  · obtain ⟨value, hsecret, hvalue⟩ := h.filled name hreal
    rw [if_pos hreal, hvalue, hsecret]
  · rw [if_neg hreal]
    exact h.kept name hreal

/-- Of the names of an overwriting run those of the base are the first. -/
theorem names_restrict_overlay (keep : Bool) (base : Environment)
    (sets : List (String × SecretSet)) :
    ((overlay keep base sets).env.restrict base.names).names = base.names := by
  have hold : base.names.filter (fun name => decide (name ∈ base.names)) = base.names := by
    apply List.filter_eq_self.2
    intro name hname
    exact decide_eq_true hname
  have hnew : (newNames base sets).filter (fun name => decide (name ∈ base.names)) = [] := by
    apply List.filter_eq_nil_iff.2
    intro name hname hbase
    have hfresh := (List.mem_filter.1 (List.mem_eraseDups.1 hname)).2
    exact of_decide_eq_true hfresh (of_decide_eq_true hbase)
  rw [Environment.names_restrict, names_overlay, List.filter_append, hold, hnew, List.append_nil]

/-- **Strict mode and overwriting agree on what both define.** -/
theorem inject_strict_agrees {real : Environment} {services : List String} {source : Source}
    {policy : Policy} {strict : Injection} (hstrict : policy.strict = true)
    (h : (inject real services source policy).result = .ok strict) :
    ∃ overwriting,
      (inject real services source { policy with strict := false, noClobber := false }).result =
        .ok overwriting ∧
      (policy.pristine = true → strict.env.sameVariables overwriting.env = true) ∧
      (policy.pristine = false →
        (∀ name, real.get? name = some policy.placeholder →
          ∃ value, strict.env.get? name = some value ∧
            overwriting.env.get? name = some value) ∧
        strict.env.names = (overwriting.env.restrict real.names).names ∧
        ∀ name, strict.env.get? name =
          if real.get? name = some policy.placeholder then
            (overwriting.env.restrict real.names).get? name
          else real.get? name) := by
  obtain ⟨sets, hsets, hsettle⟩ := inject_eq_ok_iff.1 h
  rw [settle_strict real sets hstrict] at hsettle
  obtain ⟨hfilled, henv⟩ := strictFill_eq_ok hsettle
  have hsame := (fetchAll_congr source policy.keyMode .merging policy.strategy.detail services).2
  refine ⟨overlay false (policy.base real) sets,
    inject_eq_ok_iff.2 ⟨sets, hsame.trans hsets, rfl⟩, ?_, ?_⟩
  · intro hpristine
    rw [if_pos hpristine] at henv
    rw [policy.base_pristine hpristine, Environment.sameVariables_iff]
    intro name
    rw [henv, (holdsAlone_ofPairs (union sets)).get?, get?_overlay_union, Environment.get?_empty,
      Option.or_none]
  · intro hpristine
    rw [if_neg (by simp [hpristine])] at henv
    have hfill := filled_fillPlaceholders hfilled
    rw [policy.base_inherited hpristine, henv]
    refine ⟨?_, ?_, ?_⟩
    · intro name hname
      obtain ⟨value, hsecret, hvalue⟩ := hfill.filled name hname
      refine ⟨value, hvalue, ?_⟩
      rw [get?_overlay_union, hsecret, Option.some_or]
    · rw [names_restrict_overlay, hfill.names]
    · intro name
      rw [hfill.get?_eq]
      by_cases hname : real.get? name = some policy.placeholder
      · obtain ⟨value, hsecret, -⟩ := hfill.filled name hname
        have hmem : name ∈ real.names :=
          (real.mem_names_iff name).2 (hname ▸ Option.some_ne_none _)
        rw [if_pos hname, if_pos hname, Environment.get?_restrict, if_pos hmem,
          get?_overlay_union, hsecret, Option.some_or]
      · rw [if_neg hname, if_neg hname]

theorem inject_strict_agrees_shared_name :
    let real : Environment := .ofPairs [("HOME", "/tmp"), ("TOKEN", "chamberme"), ("ZONE", "us")]
    let run (policy : Policy) :=
      (inject real ["base", "override", "base"] sampleRegister.source policy).result
    (∃ strict overwriting : Injection,
      run { strict := true, noClobber := true, verbatimKeys := true } = .ok strict ∧
      run { verbatimKeys := true } = .ok overwriting ∧
      (∃ value, strict.env.get? "TOKEN" = some value ∧
        overwriting.env.get? "TOKEN" = some value) ∧
      strict.env.get? "ZONE" = some "us" ∧ overwriting.env.get? "ZONE" = some "eu") ∧
    ∃ strict overwriting : Injection,
      run { strict := true, pristine := true, verbatimKeys := true } = .ok strict ∧
      run { pristine := true, verbatimKeys := true } = .ok overwriting ∧
      strict.env.sameVariables overwriting.env = true ∧
      strict.env.names = ["API_KEY", "TOKEN", "ZONE"] ∧
      overwriting.env.names = ["TOKEN", "ZONE", "API_KEY"] := by
  intro real run
  let secrets := union (fetched sampleSecrets ["base", "override", "base"])
  constructor
  · have h : run { strict := true, noClobber := true, verbatimKeys := true } =
        .ok { env := fillPlaceholders "chamberme" secrets real } := by
      rfl
    obtain ⟨overwriting, hover, -, hkept⟩ := inject_strict_agrees rfl h
    obtain ⟨htoken, -, hget⟩ := hkept rfl
    refine ⟨_, _, h, hover, htoken "TOKEN" (by cbv), ?_, ?_⟩
    · rw [hget "ZONE"]
      cbv
    · cases hover
      cbv
  · have h : run { strict := true, pristine := true, verbatimKeys := true } =
        .ok { env := .ofPairs secrets.entries } := by
      rfl
    obtain ⟨overwriting, hover, hsame, -⟩ := inject_strict_agrees rfl h
    refine ⟨_, _, h, hover, hsame rfl, ?_, ?_⟩
    · cbv
    · cases hover
      cbv

end EnvInject
