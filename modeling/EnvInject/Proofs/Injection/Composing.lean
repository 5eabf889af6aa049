import EnvInject.Proofs.Environment.Equality
import EnvInject.Proofs.Injection.Overlay
import EnvInject.Proofs.Injection.Steps
import Mathlib

/-!
# Injecting in parts

The services of an injection may be taken in two parts: the second part goes on from the environment
that the first one leaves, and no longer starts from nothing where the first one did.

* `LawfulMonad Run`, `fetchAll_append` : fetching in two parts takes the same steps;
* `Injection.followedBy` : one injection after another;
* `foldl_applySet` : sets see of an injection so far only its environment;
* `overlay_append`, `overlay_again` : laying sets in two parts, and laying them a second time;
* `inject_composes` : an injection without strict mode in two parts, and the same one twice.
-/

namespace EnvInject

/-! ## Fetching in two parts -/

instance : LawfulMonad Run := LawfulMonad.mk' Run
  (by
    intro α run
    obtain ⟨steps, result⟩ := run
    cases result with
    | error e => rfl
    | ok a => exact congrArg (Run.mk · _) (List.append_nil steps))
  (by
    intro α β a next
    rfl)
  (by
    intro α β γ run next last
    cases hrun : run.result with
    | error e =>
      rw [Run.bind_of_error hrun, Run.bind_of_error hrun]
      exact Run.bind_of_error rfl last
    | ok a =>
      rw [Run.bind_of_ok hrun, Run.bind_of_ok hrun]
      cases hnext : (next a).result with
      | error e =>
        rw [Run.bind_of_error hnext]
        exact Run.bind_of_error rfl last
      | ok b =>
        rw [Run.bind_of_ok hnext, ← List.append_assoc]
        exact Run.bind_of_ok rfl last)

theorem fetchAll_append (source : Source) (mode : KeyMode) (detail : String → Nat → Detail)
    (xs ys : List String) :
    fetchAll source mode detail (xs ++ ys) = (do
      let before ← fetchAll source mode detail xs
      let after ← fetchAll source mode detail ys
      pure (before ++ after)) := by
  induction xs with
  | nil => simp [fetchAll]
  | cons service rest ih => simp [fetchAll, ih]

/-! ## Laying sets in two parts -/

/-- The outcome of an injection and of another one that went on from its environment. -/
def Injection.followedBy (first second : Injection) : Injection where
  env := second.env
  collisions := first.collisions ++ second.collisions

/-- What was reported before only stands in front of what is reported next. -/
theorem foldl_applySet (keep : Bool) (sets : List (String × SecretSet)) (state : Injection) :
    sets.foldl (applySet keep) state = state.followedBy (overlay keep state.env sets) := by
  have henv : (sets.foldl (applySet keep) state).env = (overlay keep state.env sets).env := by
    apply Environment.ext_get?
    · rw [names_foldl_applySet, names_overlay]
    · intro name
      rw [get?_foldl_applySet, get?_overlay]
  have hcollisions := collisions_foldl_applySet keep sets state
  rw [← collisions_overlay] at hcollisions
  unfold Injection.followedBy
  rw [← henv, ← hcollisions]

theorem overlay_append (keep : Bool) (base : Environment) (xs ys : List (String × SecretSet)) :
    overlay keep base (xs ++ ys) =
      (overlay keep base xs).followedBy (overlay keep (overlay keep base xs).env ys) := by
  unfold overlay
  rw [List.foldl_append]
  exact foldl_applySet keep ys _

/-- All their names are there, and the values that prevailed prevail again. -/
theorem overlay_again (keep : Bool) (base : Environment) (sets : List (String × SecretSet)) :
    (overlay keep (overlay keep base sets).env sets).env = (overlay keep base sets).env := by
  apply Environment.ext_get?
  · have hnew : newNames (overlay keep base sets).env sets = [] := by
      unfold newNames
      rw [List.filter_eq_nil_iff.2, List.eraseDups_nil]
      intro name hname hfresh
      have hset := (mem_names_overlay_iff keep base sets name).2 (.inr (List.mem_flatMap.1 hname))
      exact of_decide_eq_true hfresh hset
    rw [names_overlay, hnew, List.append_nil]
  · intro name
    rw [get?_overlay, get?_overlay, prevailing_assoc]
    congr 1
    cases keep <;> simp [prevailing]

/-! ## Injecting in two parts -/

theorem inject_lax (real : Environment) (services : List String) (source : Source)
    {policy : Policy} (hstrict : policy.strict = false) :
    inject real services source policy = (do
      let sets ← fetchAll source policy.keyMode .merging services
      pure (overlay policy.noClobber (policy.base real) sets)) := by
  unfold inject Policy.strategy Policy.base
  rw [hstrict]
  cases policy.noClobber <;> rfl

/-- The policy of an injection that goes on from where another one left off. -/
def Policy.onward (policy : Policy) : Policy := { policy with pristine := false }

theorem inject_append (real : Environment) (xs ys : List String) (source : Source)
    {policy : Policy} (hstrict : policy.strict = false) :
    inject real (xs ++ ys) source policy = (do
      let first ← inject real xs source policy
      let second ← inject first.env ys source policy.onward
      pure (first.followedBy second)) := by
  have hsecond (first : Injection) :
      inject first.env ys source policy.onward = (do
        let sets ← fetchAll source policy.keyMode .merging ys
        pure (overlay policy.noClobber first.env sets)) :=
    inject_lax first.env ys source hstrict
  simp only [hsecond, inject_lax _ _ _ hstrict, fetchAll_append, bind_assoc, pure_bind,
    overlay_append]

/-- The same services a second time change nothing, although overwriting passes through other values
where they share names. -/
theorem inject_again {real : Environment} {services : List String} {source : Source}
    {policy : Policy} (hstrict : policy.strict = false) {injection : Injection}
    (h : (inject real services source policy).result = .ok injection) :
    ∃ again, (inject injection.env services source policy.onward).result = .ok again ∧
      again.env = injection.env := by
  obtain ⟨sets, hsets, hsettle⟩ := inject_eq_ok_iff.1 h
  rw [settle_lax real sets hstrict] at hsettle
  cases hsettle
  have honward (base : Environment) :
      settle base policy.onward sets = .ok (overlay policy.noClobber base sets) :=
    settle_lax base sets hstrict
  exact ⟨_, inject_eq_ok_iff.2 ⟨sets, hsets, honward _⟩, overlay_again _ _ _⟩

/-- **Injecting without strict mode composes**, and is idempotent. -/
theorem inject_composes (real : Environment) (xs ys : List String) (source : Source)
    (policy : Policy) (hstrict : policy.strict = false) :
    let whole := inject real (xs ++ ys) source policy
    let front := inject real xs source policy
    let back (first : Injection) := inject first.env ys source { policy with pristine := false }
    whole = (do
      let first ← front
      let second ← back first
      pure { env := second.env, collisions := first.collisions ++ second.collisions }) ∧
    (∀ e, front.result = .error e → whole.result = .error e) ∧
    ∀ first, front.result = .ok first →
      (∀ e, (back first).result = .error e → whole.result = .error e) ∧
      (∀ second, (back first).result = .ok second → whole.result =
        .ok { env := second.env, collisions := first.collisions ++ second.collisions }) ∧
      ∃ again, (inject first.env xs source { policy with pristine := false }).result = .ok again ∧
        again.env = first.env := by
  intro whole front back
  have hwhole : whole = (do
      let first ← front
      let second ← back first
      pure (first.followedBy second)) := inject_append real xs ys source hstrict
  have hresult : whole.result = front.result.bind fun first =>
      (back first).result.bind fun second => .ok (first.followedBy second) := by
    rw [hwhole, Run.result_bind]
    simp only [Run.result_bind, Run.result_pure]
  refine ⟨hwhole, ?_, ?_⟩
  · intro e he
    rw [hresult, he]
    rfl
  · intro first hfirst
    refine ⟨?_, ?_, inject_again hstrict hfirst⟩
    · intro e he
      rw [hresult, hfirst, Except.bind, he]
      rfl
    · intro second hsecond
      rw [hresult, hfirst, Except.bind, hsecond]
      rfl

theorem inject_composes_shared_name :
    let real : Environment := .ofPairs [("HOME", "/tmp"), ("TOKEN", "inherited")]
    let policy : Policy := { pristine := true, verbatimKeys := true }
    let run (real : Environment) (services : List String) (policy : Policy) :=
      (inject real services sampleRegister.source policy).result
    (∃ first second again : Injection,
      run real ["base", "override"] policy = .ok first ∧
      run first.env ["base"] { policy with pristine := false } = .ok second ∧
      run real ["base", "override", "base"] policy =
        .ok { env := second.env, collisions := first.collisions ++ second.collisions } ∧
      second.env.pairs = [("TOKEN", "one"), ("ZONE", "eu"), ("API_KEY", "k")] ∧
      run first.env ["base", "override"] { policy with pristine := false } = .ok again ∧
      again.env = first.env ∧ again.collisions ≠ []) ∧
    run real ["missing", "base"] policy = .error (.store (.notFound "missing" "memory")) ∧
    run real ["base", "missing"] policy = .error (.store (.notFound "missing" "memory")) := by
  intro real policy run
  have hfront : run real ["base", "override"] policy =
      .ok (overlay false .empty (fetched sampleSecrets ["base", "override"])) := by
    rfl
  obtain ⟨-, -, hparts⟩ :=
    inject_composes real ["base", "override"] ["base"] sampleRegister.source policy rfl
  obtain ⟨-, hsecond, again, hagain, henv⟩ := hparts _ hfront
  have hback := hsecond _ rfl
  obtain ⟨-, hfailed, -⟩ :=
    inject_composes real ["missing"] ["base"] sampleRegister.source policy rfl
  obtain ⟨-, -, hlater⟩ :=
    inject_composes real ["base"] ["missing"] sampleRegister.source policy rfl
  refine ⟨⟨_, _, again, hfront, rfl, hback, by cbv, hagain, henv, ?_⟩, hfailed _ rfl, ?_⟩
  · cases hagain
    cbv
    exact List.cons_ne_nil _ _
  · exact (hlater _ rfl).1 _ rfl

end EnvInject
