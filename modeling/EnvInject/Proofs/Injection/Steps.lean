import EnvInject.Proofs.Injection.Fetched

/-!
# Steps and errors of an injection

An injection fetches and tells numbers, and takes no other steps. It fails over a service that cannot
be fetched or over a placeholder without a secret.

* `fetch_of_refused`, `fetch_of_fetched` : the fetch of one service;
* `fetchAll_of_refused`, `fetchAll_of_fetched` : what fetching does with the first service;
* `fetchAll_congr` : what is told of the services does not matter to the fetches and the result;
* `fetchAll_eq_ok` : the sets of a list of services are those that the source gives;
* `inject_eq`, `inject_eq_ok_iff` : an injection as its fetches, settled by the policy;
* `steps_inject`, `fetches_inject` : its steps, and the fetches among them;
* `inject_eq_error` : the two kinds of errors.
-/

namespace EnvInject

/-! ## One service after the other -/

section FetchAll
variable {source : Source} {mode : KeyMode} {detail : String → Nat → Detail} {service : String}

theorem fetch_of_refused {e : StoreError} (h : source service mode = .error e) :
    fetch source mode detail service =
      { steps := [.fetch service mode], result := .error (.store e) } := by
  unfold fetch
  rw [h]

theorem fetch_of_fetched {set : SecretSet} (h : source service mode = .ok set) :
    fetch source mode detail service =
      { steps := [.fetch service mode, .tell (detail service set.entries.length)]
        result := .ok set } := by
  unfold fetch
  rw [h]

/-- A service that cannot be fetched ends the fetching. -/
theorem fetchAll_of_refused {e : StoreError} (h : source service mode = .error e)
    (rest : List String) :
    fetchAll source mode detail (service :: rest) =
      { steps := [.fetch service mode], result := .error (.store e) } := by
  rw [fetchAll, fetch_of_refused h]
  exact Run.bind_of_error rfl _

/-- A service that was fetched stands before the others, which are fetched next. -/
theorem fetchAll_of_fetched {set : SecretSet} (h : source service mode = .ok set)
    (rest : List String) :
    fetchAll source mode detail (service :: rest) =
      { steps := .fetch service mode :: .tell (detail service set.entries.length) ::
          (fetchAll source mode detail rest).steps
        result :=
          (fetchAll source mode detail rest).result.map fun sets => (service, set) :: sets } := by
  rw [fetchAll, fetch_of_fetched h, Run.bind_of_ok rfl]
  cases hsets : (fetchAll source mode detail rest).result with
  | error e =>
    rw [Run.bind_of_error hsets]
    rfl
  | ok sets =>
    rw [Run.bind_of_ok hsets, Run.steps_pure, List.append_nil]
    rfl

end FetchAll

/-- A step of a run that fetches services under a key mode. -/
def Step.IsOfFetching (mode : KeyMode) (step : Step) : Prop :=
  (∃ service, step = .fetch service mode) ∨ ∃ detail, step = .tell detail

theorem steps_fetchAll (source : Source) (mode : KeyMode) (detail : String → Nat → Detail)
    (services : List String) :
    ∀ step ∈ (fetchAll source mode detail services).steps, step.IsOfFetching mode := by
  induction services with
  | nil => exact nofun
  | cons service rest ih =>
    have hfetch : (Step.fetch service mode).IsOfFetching mode := .inl ⟨service, rfl⟩
    cases hset : source service mode with
    | error e =>
      rw [fetchAll_of_refused hset]
      exact List.forall_mem_singleton.2 hfetch
    | ok set =>
      rw [fetchAll_of_fetched hset]
      exact List.forall_mem_cons.2 ⟨hfetch, List.forall_mem_cons.2 ⟨.inr ⟨_, rfl⟩, ih⟩⟩

/-- What is told of the services changes neither the fetches nor the result. -/
theorem fetchAll_congr (source : Source) (mode : KeyMode) (detail detail' : String → Nat → Detail)
    (services : List String) :
    (fetchAll source mode detail services).fetches =
        (fetchAll source mode detail' services).fetches ∧
      (fetchAll source mode detail services).result =
        (fetchAll source mode detail' services).result := by
  induction services with
  | nil => exact ⟨rfl, rfl⟩
  | cons service rest ih =>
    obtain ⟨hfetches, hresult⟩ := ih
    cases hset : source service mode with
    | error e =>
      rw [fetchAll_of_refused hset, fetchAll_of_refused hset]
      exact ⟨rfl, rfl⟩
    | ok set =>
      rw [fetchAll_of_fetched hset, fetchAll_of_fetched hset, hresult]
      exact ⟨congrArg ((service, mode) :: ·) hfetches, rfl⟩

theorem fetchAll_eq_error {source : Source} {mode : KeyMode} {detail : String → Nat → Detail}
    {services : List String} {e : ExecError}
    (h : (fetchAll source mode detail services).result = .error e) :
    ∃ cause, e = .store cause := by
  induction services with
  | nil => cases h
  | cons service rest ih =>
    cases hset : source service mode with
    | error cause =>
      rw [fetchAll_of_refused hset] at h
      exact ⟨cause, (Except.error.inj h).symm⟩
    | ok set =>
      rw [fetchAll_of_fetched hset] at h
      cases hsets : (fetchAll source mode detail rest).result with
      | error e' =>
        rw [hsets] at h
        cases h
        exact ih hsets
      | ok sets =>
        rw [hsets] at h
        cases h

theorem fetchAll_eq_ok {source : Source} {mode : KeyMode} {detail : String → Nat → Detail}
    {services : List String} {sets : List (String × SecretSet)}
    (h : (fetchAll source mode detail services).result = .ok sets) :
    ∀ f ∈ sets, f.1 ∈ services ∧ source f.1 mode = .ok f.2 := by
  induction services generalizing sets with
  | nil =>
    cases h
    exact nofun
  | cons service rest ih =>
    cases hset : source service mode with
    | error e =>
      rw [fetchAll_of_refused hset] at h
      cases h
    | ok set =>
      rw [fetchAll_of_fetched hset] at h
      cases hsets : (fetchAll source mode detail rest).result with
      | error e =>
        rw [hsets] at h
        cases h
      | ok sets' =>
        rw [hsets] at h
        cases h
        refine List.forall_mem_cons.2 ⟨⟨List.mem_cons_self, hset⟩, fun f hf => ?_⟩
        obtain ⟨hservice, hsource⟩ := ih hsets f hf
        exact ⟨List.mem_cons_of_mem _ hservice, hsource⟩

/-! ## The whole injection -/

/-- What is told after the fetches: how many placeholders strict mode fills, if none is left over. -/
def settledSteps (real : Environment) (policy : Policy) (settled : Except ExecError Injection) :
    List Step :=
  match policy.strategy, settled with
  | .fill, .ok _ => [.tell (.filled (real.pairs.countP (·.2 == policy.placeholder)))]
  | _, _ => []

theorem settledSteps_error (real : Environment) (policy : Policy) (e : ExecError) :
    settledSteps real policy (.error e) = [] := by
  unfold settledSteps
  cases policy.strategy <;> rfl

theorem settledSteps_lax (real : Environment) {policy : Policy} (h : policy.strict = false)
    (settled : Except ExecError Injection) : settledSteps real policy settled = [] := by
  unfold settledSteps Policy.strategy
  rw [h]
  cases policy.noClobber <;> rfl

theorem settledSteps_told (real : Environment) (policy : Policy)
    (settled : Except ExecError Injection) :
    ∀ step ∈ settledSteps real policy settled, ∃ detail, step = .tell detail := by
  unfold settledSteps
  split
  · exact List.forall_mem_singleton.2 ⟨_, rfl⟩
  · exact nofun

theorem fill_eq (real : Environment) {policy : Policy} (h : policy.strategy = .fill)
    (secrets : SecretSet) :
    fill real policy secrets =
      { steps := settledSteps real policy (strictFill real policy secrets)
        result := strictFill real policy secrets } := by
  unfold fill settledSteps
  rw [h]
  cases strictFill real policy secrets <;> rfl

/-- The fetches, and what the policy makes of the sets. -/
theorem inject_eq (real : Environment) (services : List String) (source : Source)
    (policy : Policy) :
    let run := fetchAll source policy.keyMode policy.strategy.detail services
    let settled := run.result.bind (settle real policy)
    inject real services source policy =
      { steps := run.steps ++ settledSteps real policy settled, result := settled } := by
  dsimp only
  unfold inject
  cases hsets : (fetchAll source policy.keyMode policy.strategy.detail services).result with
  | error e =>
    rw [Run.bind_of_error hsets]
    simp [Except.bind, settledSteps_error]
  | ok sets =>
    rw [Run.bind_of_ok hsets, Except.bind]
    unfold settle
    cases hstrategy : policy.strategy with
    | overwrite => simp [settledSteps, hstrategy, Policy.base]
    | preserve => simp [settledSteps, hstrategy, Policy.base]
    | fill => simp [fill_eq real hstrategy]

theorem steps_inject (real : Environment) (services : List String) (source : Source)
    (policy : Policy) :
    ∀ step ∈ (inject real services source policy).steps, step.IsOfFetching policy.keyMode := by
  intro step hstep
  rw [inject_eq] at hstep
  rcases List.mem_append.1 hstep with hstep | hstep
  · exact steps_fetchAll _ _ _ _ step hstep
  · exact .inr (settledSteps_told _ _ _ step hstep)

/-- Nothing is fetched after the services. -/
theorem fetches_inject (real : Environment) (services : List String) (source : Source)
    (policy : Policy) :
    (inject real services source policy).fetches =
      (fetchAll source policy.keyMode policy.strategy.detail services).fetches := by
  unfold Run.fetches
  rw [inject_eq, List.filterMap_append]
  refine (congrArg _ (List.filterMap_eq_nil_iff.2 fun step hstep => ?_)).trans (List.append_nil _)
  obtain ⟨detail, rfl⟩ := settledSteps_told _ _ _ step hstep
  rfl

theorem inject_eq_ok_iff {real : Environment} {services : List String} {source : Source}
    {policy : Policy} {injection : Injection} :
    (inject real services source policy).result = .ok injection ↔
      ∃ sets, (fetchAll source policy.keyMode policy.strategy.detail services).result = .ok sets ∧
        settle real policy sets = .ok injection := by
  rw [result_inject]
  cases (fetchAll source policy.keyMode policy.strategy.detail services).result with
  | error e => exact ⟨nofun, nofun⟩
  | ok sets =>
    constructor
    · intro h
      exact ⟨sets, rfl, h⟩
    · rintro ⟨sets', hsets, h⟩
      cases hsets
      exact h

theorem settle_eq_error {real : Environment} {policy : Policy}
    {sets : List (String × SecretSet)} {e : ExecError} (h : settle real policy sets = .error e) :
    ∃ name, e = .unfilled name := by
  unfold settle at h
  split at h
  · cases h
  · cases h
  · unfold strictFill at h
    split at h
    · rename_i name _
      exact ⟨name, (Except.error.inj h).symm⟩
    · cases h

theorem inject_eq_error {real : Environment} {services : List String} {source : Source}
    {policy : Policy} {e : ExecError}
    (h : (inject real services source policy).result = .error e) :
    (∃ cause, e = .store cause) ∨ ∃ name, e = .unfilled name := by
  rw [result_inject] at h
  cases hsets : (fetchAll source policy.keyMode policy.strategy.detail services).result with
  | error e' =>
    rw [hsets] at h
    cases h
    exact .inl (fetchAll_eq_error hsets)
  | ok sets =>
    rw [hsets] at h
    exact .inr (settle_eq_error h)

end EnvInject
