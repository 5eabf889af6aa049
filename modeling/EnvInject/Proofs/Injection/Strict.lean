import EnvInject.Proofs.Injection.Fetched
import EnvInject.Proofs.Secret.Collecting
import EnvInject.Proofs.Text.ByteOrder
import Mathlib

/-!
# Strict mode

Strict mode fills the placeholders of the real environment from the union of the fetched sets, where
a later set prevails. It looks at the real environment also where the result holds secrets alone, and
never at the values of secrets.

* `get?_union` : what the union says of a name;
* `firstUnfilled?_eq_some`, `firstUnfilled?_eq_none_iff` : the first placeholder without a secret;
* `strictFill_cases` : strict mode fails over a placeholder, or there is a secret for each of them;
* `Filled`, `HoldsAlone` : the two kinds of result;
* `inject_strict` : when strict mode fails, with which error, and what it gives otherwise.
-/

namespace EnvInject

theorem get?_foldl_extend (sets : List (String × SecretSet)) (acc : SecretSet) (name : String) :
    (sets.foldl (fun acc f => acc.extend f.2) acc).get? name =
      (lastValue? sets name).or (acc.get? name) := by
  induction sets generalizing acc with
  | nil => rfl
  | cons f rest ih => rw [List.foldl_cons, ih, SecretSet.get?_extend, lastValue?_cons, Option.or_assoc]

theorem get?_union (sets : List (String × SecretSet)) (name : String) :
    (union sets).get? name = lastValue? sets name := by
  rw [union, get?_foldl_extend, SecretSet.get?_empty, Option.or_none]

theorem mem_names_union_iff {sets : List (String × SecretSet)} {name : String} :
    name ∈ (union sets).names ↔ ∃ f ∈ sets, name ∈ f.2.names := by
  rw [SecretSet.mem_names_iff, get?_union, lastValue?, Ne, List.findSome?_eq_none_iff]
  simp [SecretSet.mem_names_iff]

/-! ## Placeholders without a secret -/

/-- The variable is a placeholder, and there is no secret of its name. -/
def Unfilled (real : Environment) (placeholder : String) (secrets : String → Option String)
    (name : String) : Prop :=
  real.get? name = some placeholder ∧ secrets name = none

section Unfilled
variable {real : Environment} {placeholder : String} {secrets : SecretSet}

/-- On a variable of the environment the scan asks for just that. -/
theorem scan_iff {p : String × String} (h : p ∈ real.pairs) :
    (p.2 == placeholder && (secrets.get? p.1).isNone) = true ↔
      Unfilled real placeholder secrets.get? p.1 := by
  have hvalue : real.get? p.1 = some p.2 := (Environment.get?_eq_some_iff _ _ _).2 h
  simp [Unfilled, hvalue]

theorem firstUnfilled?_eq_none_iff :
    firstUnfilled? placeholder secrets real = none ↔
      ∀ name, ¬ Unfilled real placeholder secrets.get? name := by
  rw [firstUnfilled?, Option.map_eq_none_iff, List.find?_eq_none]
  constructor
  · intro h name hname
    have hmem := (Environment.get?_eq_some_iff _ _ _).1 hname.1
    exact h _ hmem ((scan_iff hmem).2 hname)
  · exact fun h p hp hscan => h p.1 ((scan_iff hp).1 hscan)

theorem firstUnfilled?_eq_some {name : String}
    (h : firstUnfilled? placeholder secrets real = some name) :
    ∃ before after, real.names = before ++ name :: after ∧
      Unfilled real placeholder secrets.get? name ∧
      ∀ earlier ∈ before, ¬ Unfilled real placeholder secrets.get? earlier := by
  obtain ⟨p, hfind, rfl⟩ := Option.map_eq_some_iff.1 h
  obtain ⟨hscan, before, after, hpairs, hbefore⟩ := List.find?_eq_some_iff_append.1 hfind
  have hp : p ∈ real.pairs := by simp [hpairs]
  refine ⟨before.map Prod.fst, after.map Prod.fst, ?_, (scan_iff hp).1 hscan, ?_⟩
  · rw [Environment.names, hpairs, List.map_append, List.map_cons]
  · intro earlier hearlier
    obtain ⟨q, hq, rfl⟩ := List.mem_map.1 hearlier
    have hqreal : q ∈ real.pairs := by simp [hpairs, hq]
    have hnot := hbefore q hq
    exact fun hunfilled => by simp [(scan_iff hqreal).2 hunfilled] at hnot

end Unfilled

theorem strictFill_cases (real : Environment) (policy : Policy) (secrets : SecretSet) :
    (∃ name, Unfilled real policy.placeholder secrets.get? name ∧
      strictFill real policy secrets = .error (.unfilled name)) ∨
    (∀ name, ¬ Unfilled real policy.placeholder secrets.get? name) ∧
      strictFill real policy secrets = .ok
        { env := if policy.pristine then Environment.ofPairs secrets.entries
            else fillPlaceholders policy.placeholder secrets real } := by
  unfold strictFill
  cases hfirst : firstUnfilled? policy.placeholder secrets real with
  | some name =>
    obtain ⟨-, -, -, hunfilled, -⟩ := firstUnfilled?_eq_some hfirst
    exact .inl ⟨name, hunfilled, rfl⟩
  | none => exact .inr ⟨firstUnfilled?_eq_none_iff.1 hfirst, rfl⟩

/-! ## The result -/

/-- `env` is `real` with every placeholder filled from `secrets`. -/
structure Filled (real : Environment) (placeholder : String) (secrets : String → Option String)
    (env : Environment) : Prop where
  names : env.names = real.names
  filled : ∀ name, real.get? name = some placeholder →
    ∃ value, secrets name = some value ∧ env.get? name = some value
  kept : ∀ name, real.get? name ≠ some placeholder → env.get? name = real.get? name

/-- `env` holds the pairs of `secrets` and nothing else, in the byte order of the names. -/
structure HoldsAlone (secrets : String → Option String) (env : Environment) : Prop where
  get? : ∀ name, env.get? name = secrets name
  ordered : Utf8.ByteOrdered env.names

theorem names_fillPlaceholders (placeholder : String) (secrets : SecretSet) (env : Environment) :
    (fillPlaceholders placeholder secrets env).names = env.names := by
  simp [fillPlaceholders, Environment.names]

theorem get?_fillPlaceholders (placeholder : String) (secrets : SecretSet) (real : Environment)
    (name : String) :
    (fillPlaceholders placeholder secrets real).get? name =
      (real.get? name).map fun value =>
        if value = placeholder then (secrets.get? name).getD value else value :=
  Pairs.lookup_map (fun n value => if value = placeholder then (secrets.get? n).getD value else value)
    name real.pairs

theorem filled_fillPlaceholders {real : Environment} {placeholder : String} {secrets : SecretSet}
    (h : ∀ name, ¬ Unfilled real placeholder secrets.get? name) :
    Filled real placeholder secrets.get? (fillPlaceholders placeholder secrets real) where
  names := names_fillPlaceholders placeholder secrets real
  filled name hname := by
    obtain ⟨value, hvalue⟩ : ∃ value, secrets.get? name = some value :=
      Option.ne_none_iff_exists'.1 fun hn => h name ⟨hname, hn⟩
    exact ⟨value, hvalue, by simp [get?_fillPlaceholders, hname, hvalue]⟩
  kept name hname := by
    rw [get?_fillPlaceholders]
    cases hreal : real.get? name with
    | none => rfl
    | some value =>
      have : value ≠ placeholder := fun he => hname (he ▸ hreal)
      simp [this]

theorem names_ofPairs_entries (secrets : SecretSet) :
    (Environment.ofPairs secrets.entries).names = secrets.names := by
  unfold Environment.names
  rw [Environment.pairs_ofPairs secrets.nodup_names, SecretSet.names]

theorem holdsAlone_ofPairs (secrets : SecretSet) :
    HoldsAlone secrets.get? (.ofPairs secrets.entries) where
  get? name := by
    rw [Environment.get?, Environment.pairs_ofPairs secrets.nodup_names, SecretSet.get?]
  ordered := by
    rw [names_ofPairs_entries]
    exact secrets.names_byteOrdered

/-- **Strict mode is exact.** -/
theorem inject_strict (real : Environment) (services : List String) (source : Source)
    (policy : Policy) (secrets : String → SecretSet)
    (hfetch : ∀ service ∈ services, source service policy.keyMode = .ok (secrets service))
    (hstrict : policy.strict = true) :
    let given := lastValue? (fetched secrets services)
    let result := (inject real services source policy).result
    ((∃ e, result = .error e) ↔ ∃ name, Unfilled real policy.placeholder given name) ∧
      (∀ e, result = .error e → ∃ before name after,
        e = .unfilled name ∧ real.names = before ++ name :: after ∧
          Unfilled real policy.placeholder given name ∧
          ∀ earlier ∈ before, ¬ Unfilled real policy.placeholder given earlier) ∧
      ((∀ name, ¬ Unfilled real policy.placeholder given name) →
        ∃ env, result = .ok { env, collisions := [] } ∧
          (policy.pristine = false → Filled real policy.placeholder given env) ∧
          (policy.pristine = true → HoldsAlone given env)) := by
  have hgiven : lastValue? (fetched secrets services) =
      (union (fetched secrets services)).get? :=
    funext fun name => (get?_union _ name).symm
  rw [hgiven, result_inject_of_fetched hfetch, settle_strict real _ hstrict]
  generalize union (fetched secrets services) = set
  dsimp only
  rw [strictFill]
  cases hfirst : firstUnfilled? policy.placeholder set real with
  | some name =>
    obtain ⟨before, after, hnames, hname, hbefore⟩ := firstUnfilled?_eq_some hfirst
    refine ⟨⟨fun _ => ⟨name, hname⟩, fun _ => ⟨_, rfl⟩⟩, ?_, fun h => absurd hname (h name)⟩
    rintro e ⟨⟩
    exact ⟨before, name, after, rfl, hnames, hname, hbefore⟩
  | none =>
    have hnone := firstUnfilled?_eq_none_iff.1 hfirst
    refine ⟨⟨nofun, fun ⟨name, hname⟩ => absurd hname (hnone name)⟩, nofun, fun _ => ⟨_, rfl, ?_, ?_⟩⟩
    · intro hpristine
      rw [hpristine]
      exact filled_fillPlaceholders hnone
    · intro hpristine
      rw [hpristine]
      exact holdsAlone_ofPairs set

theorem inject_strict_shared_name :
    (∃ e, (inject (.ofPairs [("TOKEN", "chamberme"), ("EXTRA", "chamberme")])
      ["base", "override", "base"] sampleRegister.source
      { strict := true, verbatimKeys := true }).result = .error e) ∧
    ∃ env, (inject (.ofPairs [("HOME", "/tmp"), ("TOKEN", "chamberme"), ("ZONE", "us")])
      ["base", "override", "base"] sampleRegister.source
      { strict := true, verbatimKeys := true }).result = .ok { env, collisions := [] } ∧
      env.names = ["HOME", "TOKEN", "ZONE"] ∧ env.get? "TOKEN" = some "one" ∧
      env.get? "ZONE" = some "us" := by
  constructor
  · refine (inject_strict _ _ _ { strict := true, verbatimKeys := true } sampleSecrets
      source_sampleRegister rfl).1.2 ⟨"EXTRA", ?_, ?_⟩
    · cbv
    · cbv
  · have hfilled : ∀ name, ¬ Unfilled (.ofPairs [("HOME", "/tmp"), ("TOKEN", "chamberme"),
        ("ZONE", "us")]) "chamberme" (lastValue? (fetched sampleSecrets ["base", "override", "base"]))
        name := by
      rintro name ⟨hreal, hnone⟩
      have hmem := (Environment.get?_eq_some_iff _ _ _).1 hreal
      rw [Environment.pairs_ofPairs (by decide)] at hmem
      obtain rfl : name = "TOKEN" := by simpa using hmem
      have htoken : lastValue? (fetched sampleSecrets ["base", "override", "base"]) "TOKEN" =
          some "one" := by cbv
      rw [htoken] at hnone
      cases hnone
    obtain ⟨env, hresult, henv, -⟩ :=
      (inject_strict _ ["base", "override", "base"] _ { strict := true, verbatimKeys := true }
        sampleSecrets source_sampleRegister rfl).2.2 hfilled
    refine ⟨env, hresult, ?_, ?_, ?_⟩
    · rw [(henv rfl).names]
      cbv
    · obtain ⟨value, hvalue, hget⟩ := (henv rfl).filled "TOKEN" (by cbv)
      rw [hget, ← hvalue]
      cbv
    · rw [(henv rfl).kept "ZONE" (by decide)]
      cbv

end EnvInject
