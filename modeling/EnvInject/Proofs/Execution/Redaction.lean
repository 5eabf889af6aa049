import EnvInject.Proofs.Execution.Stages
import EnvInject.Proofs.Injection.Overlay
import EnvInject.Proofs.Injection.Strict
import EnvInject.Proofs.Secret.Collecting
import Mathlib

/-!
# What an execution shows of its secrets

Two sources that fail alike, or give sets with the same names, cannot be told apart before a command
is launched: steps, what is told on the debug level, errors, collisions and the names of the
environment are functions of the names of the secrets. Their values only enter the values of the
environment.

* `Injection.shown` : what is seen of an injection, and `Run.Alike` : what two runs share;
* `shown_applySet`, `shown_overlay` : sets with the same names are laid over an environment alike;
* `names_union`, `firstUnfilled?_of_names` : strict mode asks for names alone;
* `alike_inject`, `alike_prepare` : the relation kept from the fetches to the injection;
* `execute_shows_names_only` : what an execution does before it launches a command.
-/

namespace EnvInject

/-- What is seen of an injection: its collisions, and the names of its environment in order. -/
def Injection.shown (injection : Injection) : List Collision × List String :=
  (injection.collisions, injection.env.names)

/-- What is seen of the sets that were fetched: the services, and the names of each set. -/
def shownSets (sets : List (String × SecretSet)) : List (String × List String) :=
  sets.map fun f => (f.1, f.2.names)

/-- Both runs take the same steps, and the same is seen of their results. -/
structure Run.Alike {α β : Type} (see : α → β) (run run' : Run α) : Prop where
  steps : run.steps = run'.steps
  result : run.result.map see = run'.result.map see

theorem map_eq_map_iff {ε α β : Type} {see : α → β} {x y : Except ε α} :
    x.map see = y.map see ↔
      (∃ e, x = .error e ∧ y = .error e) ∨ ∃ a b, x = .ok a ∧ y = .ok b ∧ see a = see b := by
  cases x <;> cases y <;> simp [Except.map, eq_comm]

/-! ## Merging -/

theorem shown_applySet {keep : Bool} {a b : Injection} {f g : String × SecretSet}
    (h : a.shown = b.shown) (hservice : f.1 = g.1) (hnames : f.2.names = g.2.names) :
    (applySet keep a f).shown = (applySet keep b g).shown := by
  obtain ⟨hcollisions, henv⟩ := Prod.mk.inj h
  unfold Injection.shown
  rw [names_applySet, names_applySet, collisions_applySet, collisions_applySet, hcollisions, henv,
    hservice, hnames]

theorem shown_foldl_applySet {keep : Bool} {sets sets' : List (String × SecretSet)}
    (hsets : shownSets sets = shownSets sets') {a b : Injection} (h : a.shown = b.shown) :
    (sets.foldl (applySet keep) a).shown = (sets'.foldl (applySet keep) b).shown := by
  induction sets generalizing sets' a b with
  | nil =>
    obtain rfl : sets' = [] := List.map_eq_nil_iff.1 hsets.symm
    exact h
  | cons f rest ih =>
    cases sets' with
    | nil => cases hsets
    | cons g rest' =>
      obtain ⟨hhead, hrest⟩ := List.cons.inj hsets
      obtain ⟨hservice, hnames⟩ := Prod.mk.inj hhead
      exact ih hrest (shown_applySet h hservice hnames)

theorem shown_overlay {sets sets' : List (String × SecretSet)}
    (h : shownSets sets = shownSets sets') (keep : Bool) (base : Environment) :
    (overlay keep base sets).shown = (overlay keep base sets').shown :=
  shown_foldl_applySet h rfl

/-! ## Strict mode -/

theorem names_union {sets sets' : List (String × SecretSet)}
    (h : shownSets sets = shownSets sets') : (union sets).names = (union sets').names := by
  have hmem (sets : List (String × SecretSet)) (name : String) :
      name ∈ (union sets).names ↔ ∃ s ∈ shownSets sets, name ∈ s.2 := by
    simp [mem_names_union_iff, shownSets]
  refine SecretSet.names_ext fun name => ?_
  rw [hmem, hmem, h]

section Fill
variable {secrets secrets' : SecretSet}

theorem isNone_get?_of_names (h : secrets.names = secrets'.names) (name : String) :
    (secrets.get? name).isNone = (secrets'.get? name).isNone := by
  rw [Bool.eq_iff_iff, Option.isNone_iff_eq_none, Option.isNone_iff_eq_none,
    SecretSet.get?_eq_none_iff, SecretSet.get?_eq_none_iff, h]

theorem firstUnfilled?_of_names (h : secrets.names = secrets'.names) (placeholder : String)
    (env : Environment) :
    firstUnfilled? placeholder secrets env = firstUnfilled? placeholder secrets' env := by
  unfold firstUnfilled?
  simp only [isNone_get?_of_names h]

theorem shown_strictFill (h : secrets.names = secrets'.names) (real : Environment)
    (policy : Policy) :
    (strictFill real policy secrets).map Injection.shown =
      (strictFill real policy secrets').map Injection.shown := by
  unfold strictFill
  rw [firstUnfilled?_of_names h]
  split
  · rfl
  · cases hpristine : policy.pristine with
    | true => simp [Except.map, Injection.shown, names_ofPairs_entries, h]
    | false => simp [Except.map, Injection.shown, names_fillPlaceholders]

end Fill

theorem shown_settle {sets sets' : List (String × SecretSet)}
    (h : shownSets sets = shownSets sets') (real : Environment) (policy : Policy) :
    (settle real policy sets).map Injection.shown =
      (settle real policy sets').map Injection.shown := by
  unfold settle
  cases policy.strategy with
  | overwrite => exact congrArg Except.ok (shown_overlay h false _)
  | preserve => exact congrArg Except.ok (shown_overlay h true _)
  | fill => exact shown_strictFill (names_union h) real policy

/-! ## From the fetches to the injection -/

section Alike
variable {source source' : Source} {mode : KeyMode} {services : List String}

/-- Sets with the same names are told of alike, since only their numbers are told. -/
theorem alike_fetchAll (detail : String → Nat → Detail) (h : ∀ service ∈ services,
      (source service mode).map SecretSet.names = (source' service mode).map SecretSet.names) :
    (fetchAll source mode detail services).Alike shownSets
      (fetchAll source' mode detail services) := by
  induction services with
  | nil => exact ⟨rfl, rfl⟩
  | cons service rest ih =>
    obtain ⟨hservice, hrest⟩ := List.forall_mem_cons.1 h
    rcases map_eq_map_iff.1 hservice with ⟨e, hset, hset'⟩ | ⟨set, set', hset, hset', hnames⟩
    · rw [fetchAll_of_refused hset, fetchAll_of_refused hset']
      exact ⟨rfl, rfl⟩
    · obtain ⟨hsteps, hresult⟩ := ih hrest
      have hcount : set.entries.length = set'.entries.length := by
        simpa [SecretSet.names] using congrArg List.length hnames
      rw [fetchAll_of_fetched hset, fetchAll_of_fetched hset']
      refine ⟨by rw [hsteps, hcount], ?_⟩
      rcases map_eq_map_iff.1 hresult with ⟨e, hleft, hright⟩ | ⟨sets, sets', hleft, hright, hsets⟩
      · rw [hleft, hright]
        rfl
      · rw [hleft, hright]
        simpa [Except.map, shownSets, hnames] using hsets

variable {policy : Policy} (real : Environment)

theorem settledSteps_of_shown {settled settled' : Except ExecError Injection}
    (h : settled.map Injection.shown = settled'.map Injection.shown) :
    settledSteps real policy settled = settledSteps real policy settled' := by
  rcases map_eq_map_iff.1 h with ⟨e, rfl, rfl⟩ | ⟨injection, injection', rfl, rfl, -⟩
  · rfl
  · unfold settledSteps
    cases policy.strategy <;> rfl

theorem alike_inject (h : ∀ service ∈ services, (source service policy.keyMode).map SecretSet.names =
      (source' service policy.keyMode).map SecretSet.names) :
    (inject real services source policy).Alike Injection.shown
      (inject real services source' policy) := by
  obtain ⟨hsteps, hresult⟩ := alike_fetchAll policy.strategy.detail h
  rw [inject_eq, inject_eq]
  rcases map_eq_map_iff.1 hresult with ⟨e, hleft, hright⟩ | ⟨sets, sets', hleft, hright, hsets⟩
  · rw [hleft, hright]
    exact ⟨by rw [hsteps], rfl⟩
  · have hsettle := shown_settle hsets real policy
    rw [hleft, hright]
    have htold : settledSteps real policy (settle real policy sets) =
        settledSteps real policy (settle real policy sets') := settledSteps_of_shown real hsettle
    exact ⟨congrArg₂ (· ++ ·) hsteps htold, hsettle⟩

theorem alike_prepare (h : ∀ service ∈ services, (source service policy.keyMode).map SecretSet.names =
      (source' service policy.keyMode).map SecretSet.names) :
    (prepare real services source policy).Alike Injection.shown
      (prepare real services source' policy) := by
  cases hcheck : checkServices services with
  | error e =>
    rw [prepare_of_rejected hcheck, prepare_of_rejected hcheck]
    exact ⟨rfl, rfl⟩
  | ok =>
    obtain ⟨hsteps, hresult⟩ := alike_inject real h
    rw [prepare_of_checked hcheck, prepare_of_checked hcheck]
    exact ⟨by rw [hsteps], hresult⟩

end Alike

/-! ## Up to the launch -/

def Step.isLaunch : Step → Bool
  | launch .. => true
  | _ => false

def Run.beforeLaunch {α : Type} (run : Run α) : List Step := run.steps.takeWhile (!·.isLaunch)

theorem Step.IsSilent.not_isLaunch {step : Step} (h : step.IsSilent) : step.isLaunch = false := by
  obtain ⟨notice, rfl⟩ | ⟨detail, rfl⟩ | ⟨service, mode, rfl⟩ := h <;> rfl

theorem described_of_names {env env' : Environment} (h : env.names = env'.names) :
    env.described = env'.described := by
  have hsize (env : Environment) : env.size = env.names.length := (List.length_map _).symm
  unfold Environment.described
  rw [hsize, hsize, h]

section BeforeLaunch
variable {request : Request} {real : Environment} {source : Source} {launcher : Launcher}

theorem beforeLaunch_of_failed {e : ExecError}
    (h : (prepare real request.services source request.policy).result = .error e) :
    (execute request real source launcher).beforeLaunch =
      (prepare real request.services source request.policy).steps := by
  unfold Run.beforeLaunch
  rw [execute_of_failed h, List.takeWhile_eq_self_iff]
  intro step hstep
  simp [(silent_prepare step hstep).not_isLaunch]

theorem beforeLaunch_of_prepared {injection : Injection}
    (h : (prepare real request.services source request.policy).result = .ok injection) :
    (execute request real source launcher).beforeLaunch =
      (prepare real request.services source request.policy).steps ++
        (injection.collisions.map .report ++ [.announce (.environment injection.env.names)]) := by
  have hprepared : ∀ step ∈ (prepare real request.services source request.policy).steps,
      (!step.isLaunch) = true := fun step hstep => by
    simp [(silent_prepare step hstep).not_isLaunch]
  have hreports : ∀ step ∈ injection.collisions.map Step.report, (!step.isLaunch) = true := by
    simp [Step.isLaunch]
  unfold Run.beforeLaunch
  rw [execute_of_prepared h, List.takeWhile_append_of_pos hprepared,
    List.takeWhile_append_of_pos hreports]
  rfl

/-- All that is told on the debug level is told while preparing. -/
theorem details_execute : (execute request real source launcher).details =
    (prepare real request.services source request.policy).details := by
  unfold Run.details
  cases h : (prepare real request.services source request.policy).result with
  | error e => rw [execute_of_failed h]
  | ok injection =>
    rw [execute_of_prepared h, List.filterMap_append, List.filterMap_append, List.filterMap_map]
    simp

end BeforeLaunch

/-- **Before the launch an execution shows no value of a secret.** -/
theorem execute_shows_names_only (request : Request) (real : Environment) (source source' : Source)
    (launcher launcher' : Launcher)
    (h : ∀ service ∈ request.services,
      (source service request.policy.keyMode).map SecretSet.names =
        (source' service request.policy.keyMode).map SecretSet.names) :
    let injected := inject real request.services source request.policy
    let injected' := inject real request.services source' request.policy
    let run := execute request real source launcher
    let run' := execute request real source' launcher'
    ((∃ e, injected.result = .error e ∧ injected'.result = .error e) ∨
      ∃ a b, injected.result = .ok a ∧ injected'.result = .ok b ∧
        a.collisions = b.collisions ∧
        a.collisions.map Collision.message = b.collisions.map Collision.message ∧
        a.env.names = b.env.names ∧ a.env.described = b.env.described) ∧
    run.beforeLaunch = run'.beforeLaunch ∧
    run.details = run'.details ∧
    (run.launches = [] ↔ run'.launches = []) ∧
    (run.launches = [] → run.result = run'.result) := by
  dsimp only
  constructor
  · rcases map_eq_map_iff.1 (alike_inject real h).result with hfailed | ⟨a, b, ha, hb, hshown⟩
    · exact .inl hfailed
    · obtain ⟨hcollisions, hnames⟩ := Prod.mk.inj hshown
      exact .inr ⟨a, b, ha, hb, hcollisions, congrArg _ hcollisions, hnames,
        described_of_names hnames⟩
  · obtain ⟨hsteps, hresult⟩ := alike_prepare real h
    have hdetails : (execute request real source launcher).details =
        (execute request real source' launcher').details := by
      rw [details_execute, details_execute]
      unfold Run.details
      rw [hsteps]
    rcases map_eq_map_iff.1 hresult with ⟨e, hleft, hright⟩ | ⟨a, b, hleft, hright, hshown⟩
    · rw [beforeLaunch_of_failed hleft, beforeLaunch_of_failed hright]
      rw [execute_of_failed hleft, execute_of_failed hright] at hdetails ⊢
      refine ⟨hsteps, hdetails, ?_, fun _ => rfl⟩
      unfold Run.launches
      rw [hsteps]
    · obtain ⟨hcollisions, hnames⟩ := Prod.mk.inj hshown
      have hlaunched : (execute request real source launcher).launches ≠ [] := by
        rw [launches_of_prepared hleft]
        exact List.cons_ne_nil _ _
      have hlaunched' : (execute request real source' launcher').launches ≠ [] := by
        rw [launches_of_prepared hright]
        exact List.cons_ne_nil _ _
      refine ⟨?_, hdetails, iff_of_false hlaunched hlaunched', fun hnone => absurd hnone hlaunched⟩
      rw [beforeLaunch_of_prepared hleft, beforeLaunch_of_prepared hright, hsteps, hcollisions,
        hnames]

theorem execute_shows_names_only_two_values :
    let other : Register :=
      [("base", [("TOKEN", "uno"), ("ZONE", "us")]), ("override", [("TOKEN", "dos"), ("API_KEY", "q")])]
    let request := sampleRequest ["base", "override"] { verbatimKeys := true }
    let real : Environment := .ofPairs [("HOME", "/tmp"), ("TOKEN", "inherited")]
    let exits : Launcher := fun _ _ _ => .ok 0
    let refuses : Launcher := fun command _ _ => .error (.notFound command)
    let run := execute request real sampleRegister.source exits
    let run' := execute request real other.source refuses
    run.beforeLaunch = run'.beforeLaunch ∧ (run.launches = [] ↔ run'.launches = []) ∧
      (sampleRegister.source "override" .verbatim).map (SecretSet.get? · "TOKEN") = .ok (some "two") ∧
      (other.source "override" .verbatim).map (SecretSet.get? · "TOKEN") = .ok (some "dos") := by
  intro other request real exits refuses run run'
  have hnames : ∀ service ∈ request.services,
      (sampleRegister.source service request.policy.keyMode).map SecretSet.names =
        (other.source service request.policy.keyMode).map SecretSet.names := by
    intro service hservice
    have hcases : service = "base" ∨ service = "override" := by
      simpa [request, sampleRequest] using hservice
    rcases hcases with rfl | rfl <;> rfl
  obtain ⟨-, hbefore, -, hlaunches, -⟩ := execute_shows_names_only request real sampleRegister.source
    other.source exits refuses hnames
  exact ⟨hbefore, hlaunches, rfl, rfl⟩

end EnvInject
