import EnvInject.Proofs.Injection.Steps

/-!
# The fetches of an injection

Every strategy fetches in the same way: service by service, in order, until one cannot be had. What
is made of the sets, and when, does not show in the fetches.

* `fetchEach` : fetching that takes each set in as soon as it is there; `fetchEach_eq_fetchAll` : the
  steps and the result are those of fetching everything first;
* `mergeEach`, `fetchUnion` : the loops of merging and of strict mode; `inject_eq_mergeEach`,
  `inject_eq_fetchUnion` : an injection as one of them;
* `allFetched_or_firstRefused` : either all services can be fetched, or there is a first that cannot;
* `inject_fetches` : the fetches of an injection, and its error when one of them fails.
-/

namespace EnvInject

/-! ## One service at a time -/

/-- Fetches the services in order and takes each set in before the next fetch. -/
def fetchEach {σ : Type} (source : Source) (mode : KeyMode) (detail : String → Nat → Detail)
    (takeIn : σ → String × SecretSet → σ) (state : σ) : List String → Run σ
  | [] => pure state
  | service :: rest => do
    let set ← fetch source mode detail service
    fetchEach source mode detail takeIn (takeIn state (service, set)) rest

/-- It does not matter whether a set is taken in before or after the fetches that follow. -/
theorem fetchEach_eq_fetchAll {σ : Type} (source : Source) (mode : KeyMode)
    (detail : String → Nat → Detail) (takeIn : σ → String × SecretSet → σ) (state : σ)
    (services : List String) :
    fetchEach source mode detail takeIn state services =
      { steps := (fetchAll source mode detail services).steps
        result := (fetchAll source mode detail services).result.map (List.foldl takeIn state) } := by
  induction services generalizing state with
  | nil => rfl
  | cons service rest ih =>
    unfold fetchEach
    cases hset : source service mode with
    | error e =>
      rw [fetch_of_refused hset, Run.bind_of_error rfl, fetchAll_of_refused hset]
      rfl
    | ok set =>
      rw [fetch_of_fetched hset, Run.bind_of_ok rfl, ih, fetchAll_of_fetched hset]
      cases (fetchAll source mode detail rest).result <;> rfl

/-- Merges each set into an environment as soon as it has been fetched. -/
def mergeEach (keep : Bool) (base : Environment) (source : Source) (mode : KeyMode) :
    List String → Run Injection :=
  fetchEach source mode .merging (applySet keep) { env := base }

/-- Fetches everything that the services have, a later set prevailing. -/
def fetchUnion (source : Source) (mode : KeyMode) : List String → Run SecretSet :=
  fetchEach source mode .collected (fun acc fetched => acc.extend fetched.2) .empty

/-- Without strict mode an injection is a loop that merges each set as soon as it has been fetched. -/
theorem inject_eq_mergeEach (real : Environment) (services : List String) (source : Source)
    {policy : Policy} (hstrict : policy.strict = false) :
    inject real services source policy =
      mergeEach policy.noClobber (policy.base real) source policy.keyMode services := by
  have hdetail : policy.strategy.detail = .merging := by
    unfold Policy.strategy
    rw [hstrict]
    cases policy.noClobber <;> rfl
  have hsettle : settle real policy =
      .ok ∘ List.foldl (applySet policy.noClobber) { env := policy.base real } :=
    funext fun sets => settle_lax real sets hstrict
  rw [inject_eq, mergeEach, fetchEach_eq_fetchAll, settledSteps_lax real hstrict, List.append_nil,
    hdetail, hsettle]
  cases (fetchAll source policy.keyMode .merging services).result <;> rfl

/-- In strict mode it is a loop that adds each set to the union, and then fills the placeholders. -/
theorem inject_eq_fetchUnion (real : Environment) (services : List String) (source : Source)
    {policy : Policy} (hstrict : policy.strict = true) :
    inject real services source policy = (do
      let secrets ← fetchUnion source policy.keyMode services
      fill real policy secrets) := by
  have hstrategy : policy.strategy = .fill := by
    unfold Policy.strategy
    rw [hstrict]
    rfl
  have hunion : fetchUnion source policy.keyMode services =
      { steps := (fetchAll source policy.keyMode .collected services).steps
        result := (fetchAll source policy.keyMode .collected services).result.map union } :=
    fetchEach_eq_fetchAll _ _ _ _ _ _
  have hresult := congrArg Run.result hunion
  unfold inject
  rw [hstrategy, Strategy.detail]
  cases hsets : (fetchAll source policy.keyMode .collected services).result with
  | error e =>
    rw [hsets] at hresult
    rw [Run.bind_of_error hsets, Run.bind_of_error hresult, hunion]
  | ok sets =>
    rw [hsets] at hresult
    rw [Run.bind_of_ok hsets, Run.bind_of_ok hresult, hunion]

/-! ## Up to the first failure -/

section Fetches
variable {source : Source} {mode : KeyMode} (detail : String → Nat → Detail)

theorem fetchAll_of_allFetched {services : List String}
    (h : ∀ service ∈ services, ∃ set, source service mode = .ok set) :
    (fetchAll source mode detail services).fetches = services.map (·, mode) ∧
      ∃ sets, (fetchAll source mode detail services).result = .ok sets := by
  induction services with
  | nil => exact ⟨rfl, [], rfl⟩
  | cons service rest ih =>
    obtain ⟨⟨set, hset⟩, hrest⟩ := List.forall_mem_cons.1 h
    obtain ⟨hfetches, sets, hsets⟩ := ih hrest
    rw [fetchAll_of_fetched hset, hsets]
    exact ⟨congrArg ((service, mode) :: ·) hfetches, (service, set) :: sets, rfl⟩

/-- Nothing is fetched after a service that cannot be had. -/
theorem fetchAll_of_firstRefused {before : List String} {service : String} {cause : StoreError}
    (hbefore : ∀ earlier ∈ before, ∃ set, source earlier mode = .ok set)
    (hservice : source service mode = .error cause) (after : List String) :
    (fetchAll source mode detail (before ++ service :: after)).fetches =
        (before ++ [service]).map (·, mode) ∧
      (fetchAll source mode detail (before ++ service :: after)).result =
        .error (.store cause) := by
  induction before with
  | nil =>
    rw [List.nil_append, fetchAll_of_refused hservice]
    exact ⟨rfl, rfl⟩
  | cons earlier rest ih =>
    obtain ⟨⟨set, hset⟩, hrest⟩ := List.forall_mem_cons.1 hbefore
    obtain ⟨hfetches, hresult⟩ := ih hrest
    rw [List.cons_append, fetchAll_of_fetched hset, hresult]
    exact ⟨congrArg ((earlier, mode) :: ·) hfetches, rfl⟩

/-- Either every service can be fetched or there is a first one that cannot. -/
theorem allFetched_or_firstRefused (source : Source) (mode : KeyMode) (services : List String) :
    (∀ service ∈ services, ∃ set, source service mode = .ok set) ∨
    ∃ before service after cause, services = before ++ service :: after ∧
      (∀ earlier ∈ before, ∃ set, source earlier mode = .ok set) ∧
      source service mode = .error cause := by
  induction services with
  | nil => exact .inl nofun
  | cons service rest ih =>
    cases hset : source service mode with
    | error cause => exact .inr ⟨[], service, rest, cause, rfl, nofun, hset⟩
    | ok set =>
      rcases ih with hall | ⟨before, refused, after, cause, rfl, hbefore, hrefused⟩
      · exact .inl (List.forall_mem_cons.2 ⟨⟨set, hset⟩, hall⟩)
      · exact .inr ⟨service :: before, refused, after, cause, rfl,
          List.forall_mem_cons.2 ⟨⟨set, hset⟩, hbefore⟩, hrefused⟩

end Fetches

/-- **Fetching is in order, ends at the first failure, and is the same for all strategies.** -/
theorem inject_fetches (real : Environment) (services : List String) (source : Source)
    (policy : Policy) :
    let run := inject real services source policy
    let mode : KeyMode := if policy.verbatimKeys then .verbatim else .paths
    (policy.strict = false →
      run = mergeEach policy.noClobber (policy.base real) source mode services) ∧
    (policy.strict = true → run = (do
      let secrets ← fetchUnion source mode services
      fill real policy secrets)) ∧
    (∀ step ∈ run.steps, (∃ service, step = .fetch service mode) ∨ ∃ detail, step = .tell detail) ∧
    ((∀ service ∈ services, ∃ set, source service mode = .ok set) →
      run.fetches = services.map (·, mode) ∧
      ∀ cause, run.result ≠ .error (.store cause)) ∧
    (∀ before service after cause, services = before ++ service :: after →
      (∀ earlier ∈ before, ∃ set, source earlier mode = .ok set) →
      source service mode = .error cause →
      run.fetches = (before ++ [service]).map (·, mode) ∧
      run.result = .error (.store cause)) ∧
    ((∃ service ∈ services, ∃ cause, source service mode = .error cause) →
      ∀ name, run.result ≠ .error (.unfilled name)) ∧
    ∀ (real' : Environment) (policy' : Policy), policy'.verbatimKeys = policy.verbatimKeys →
      (inject real' services source policy').fetches = run.fetches := by
  intro run mode
  have hfetches : run.fetches = (fetchAll source mode policy.strategy.detail services).fetches :=
    fetches_inject _ _ _ _
  have hresult : run.result =
      (fetchAll source mode policy.strategy.detail services).result.bind (settle real policy) :=
    result_inject _ _ _ _
  have hrefused : ∀ before service after cause, services = before ++ service :: after →
      (∀ earlier ∈ before, ∃ set, source earlier mode = .ok set) →
      source service mode = .error cause →
      run.fetches = (before ++ [service]).map (·, mode) ∧
      run.result = .error (.store cause) := by
    intro before service after cause hsplit hbefore hservice
    obtain ⟨hfetched, hfailed⟩ := fetchAll_of_firstRefused policy.strategy.detail hbefore
      hservice after
    rw [hsplit, hfetched] at hfetches
    rw [hsplit, hfailed] at hresult
    exact ⟨hfetches, hresult⟩
  refine ⟨inject_eq_mergeEach real services source, inject_eq_fetchUnion real services source,
    steps_inject real services source policy, fun hall => ?_, hrefused, fun hsome name hname => ?_,
    fun real' policy' hverbatim => ?_⟩
  · obtain ⟨hfetched, sets, hsets⟩ := fetchAll_of_allFetched policy.strategy.detail hall
    rw [hsets] at hresult
    refine ⟨hfetches.trans hfetched, fun cause hcause => ?_⟩
    -- past the fetches only strict mode fails, and not over the store
    obtain ⟨name, hname⟩ := settle_eq_error (hresult.symm.trans hcause)
    cases hname
  · rcases allFetched_or_firstRefused source mode services with
      hall | ⟨before, service, after, cause, hsplit, hbefore, hservice⟩
    · obtain ⟨service, hmem, cause, hcause⟩ := hsome
      obtain ⟨set, hset⟩ := hall service hmem
      rw [hset] at hcause
      cases hcause
    · have hstore := (hrefused before service after cause hsplit hbefore hservice).2
      rw [hname] at hstore
      cases hstore
  · have hmode : policy'.keyMode = mode := by
      unfold Policy.keyMode
      rw [hverbatim]
    rw [fetches_inject, hmode, hfetches]
    exact (fetchAll_congr source mode _ _ services).1

theorem inject_fetches_missing_service :
    let real : Environment := .ofPairs [("EXTRA", "chamberme")]
    let services := ["base", "base", "missing", "override"]
    let run := inject real services sampleRegister.source
      { strict := true, pristine := true, verbatimKeys := true }
    run.fetches = [("base", .verbatim), ("base", .verbatim), ("missing", .verbatim)] ∧
      run.result = .error (.store (.notFound "missing" "memory")) ∧
      (inject .empty services sampleRegister.source
        { noClobber := true, verbatimKeys := true }).fetches = run.fetches := by
  intro real services run
  obtain ⟨-, -, -, -, hrefused, -, hsame⟩ := inject_fetches real services sampleRegister.source
    { strict := true, pristine := true, verbatimKeys := true }
  have hbase : sampleRegister.source "base" .verbatim = .ok (sampleSecrets "base") := rfl
  obtain ⟨hfetches, hresult⟩ := hrefused ["base", "base"] "missing" ["override"]
    (.notFound "missing" "memory") rfl (by simpa using ⟨_, hbase⟩) rfl
  exact ⟨hfetches, hresult, hsame .empty { noClobber := true, verbatimKeys := true } rfl⟩

end EnvInject
