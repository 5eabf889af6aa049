import EnvInject.Execution
import EnvInject.Proofs.Injection.Steps
import Mathlib

/-!
# The stages of an execution

An execution checks its services, fetches, injects, reports and launches, in that order. The first
error ends it, and nothing of a later stage is done.

* `checkServices_eq_error` : the error of the services is that of the first bad one;
* `prepare_of_checked`, `prepare_of_rejected` : preparing is injecting, once the services are
  checked;
* `prepare_eq_error`, `silent_prepare` : it fails with the exit code of a failed injection, and
  neither reports nor launches;
* `execute_of_prepared`, `execute_of_failed` : all steps of an execution, after either outcome;
* `execute_stages` : which stages an execution goes through, with which steps and which result.
-/

namespace EnvInject

/-! ## Checking the services -/

theorem Service.check_eq_error {name : String} {e : ExecError} (h : check name = .error e) :
    ∃ reason, e = .invalidService name reason := by
  unfold check at h
  split at h
  · rename_i fault _
    exact ⟨fault.reason, (Except.error.inj h).symm⟩
  · cases h

theorem checkServices_eq_ok_iff {services : List String} :
    checkServices services = .ok () ↔ ∀ service ∈ services, Service.check service = .ok () := by
  induction services with
  | nil => exact ⟨nofun, fun _ => rfl⟩
  | cons service rest ih =>
    rw [checkServices, List.forall_mem_cons, ← ih]
    cases hcheck : Service.check service with
    | error e => exact ⟨nofun, nofun⟩
    | ok => exact ⟨fun h => ⟨rfl, h⟩, fun h => h.2⟩

theorem checkServices_eq_error {services : List String} {e : ExecError}
    (h : checkServices services = .error e) :
    ∃ before service after reason, services = before ++ service :: after ∧
      (∀ earlier ∈ before, Service.check earlier = .ok ()) ∧
      Service.check service = .error (.invalidService service reason) ∧
      e = .invalidService service reason := by
  induction services with
  | nil => cases h
  | cons service rest ih =>
    rw [checkServices] at h
    cases hcheck : Service.check service with
    | error e' =>
      rw [hcheck] at h
      cases h
      obtain ⟨reason, rfl⟩ := Service.check_eq_error hcheck
      exact ⟨[], service, rest, reason, rfl, nofun, hcheck, rfl⟩
    | ok =>
      rw [hcheck] at h
      obtain ⟨before, bad, after, reason, rfl, hbefore, hbad, he⟩ := ih h
      refine ⟨service :: before, bad, after, reason, rfl, ?_, hbad, he⟩
      exact List.forall_mem_cons.2 ⟨hcheck, hbefore⟩

/-! ## Preparing -/

/-- What a run says of its policy before it fetches anything. -/
def Policy.announcements (policy : Policy) : List Step :=
  (if policy.pristine then [.announce .pristineMode] else []) ++
    if policy.strict then [.announce (.strictMode policy.placeholder)] else []

/-- A step that is neither a report nor a launch. -/
def Step.IsSilent (step : Step) : Prop :=
  (∃ notice, step = .announce notice) ∨ (∃ detail, step = .tell detail) ∨
    ∃ service mode, step = .fetch service mode

theorem Policy.silent_announcements (policy : Policy) :
    ∀ step ∈ policy.announcements, step.IsSilent := by
  intro step hstep
  left
  rcases List.mem_append.1 hstep with hstep | hstep
  · split at hstep
    · exact ⟨_, List.mem_singleton.1 hstep⟩
    · cases hstep
  · split at hstep
    · exact ⟨_, List.mem_singleton.1 hstep⟩
    · cases hstep

section Prepare
variable {real : Environment} {services : List String} {source : Source} {policy : Policy}

theorem prepare_of_checked (h : checkServices services = .ok ()) :
    prepare real services source policy =
      { steps := policy.announcements ++ (inject real services source policy).steps
        result := (inject real services source policy).result } := by
  have hchecked : (Run.ofExcept (checkServices services)).result = .ok () := h
  unfold prepare Policy.announcements
  rw [Run.bind_of_ok hchecked]
  cases policy.pristine <;> cases policy.strict <;> rfl

theorem prepare_of_rejected {e : ExecError} (h : checkServices services = .error e) :
    prepare real services source policy = { steps := [], result := .error e } := by
  have hchecked : (Run.ofExcept (checkServices services)).result = .error e := h
  unfold prepare
  exact Run.bind_of_error hchecked _

theorem silent_prepare : ∀ step ∈ (prepare real services source policy).steps, step.IsSilent := by
  intro step hstep
  cases hcheck : checkServices services with
  | error e =>
    rw [prepare_of_rejected hcheck] at hstep
    cases hstep
  | ok =>
    rw [prepare_of_checked hcheck] at hstep
    rcases List.mem_append.1 hstep with hstep | hstep
    · exact policy.silent_announcements step hstep
    · rcases steps_inject _ _ _ _ step hstep with ⟨service, hservice⟩ | hdetail
      · exact .inr (.inr ⟨service, _, hservice⟩)
      · exact .inr (.inl hdetail)

theorem prepare_eq_error {e : ExecError}
    (h : (prepare real services source policy).result = .error e) :
    e.exitCode = ExecError.injectionFailed := by
  cases hcheck : checkServices services with
  | error e' =>
    rw [prepare_of_rejected hcheck] at h
    cases h
    obtain ⟨_, _, _, _, _, _, _, rfl⟩ := checkServices_eq_error hcheck
    rfl
  | ok =>
    rw [prepare_of_checked hcheck] at h
    rcases inject_eq_error h with ⟨cause, rfl⟩ | ⟨name, rfl⟩ <;> rfl

end Prepare

/-! ## Executing -/

section Silent
variable {α : Type} {run : Run α}

theorem reports_of_silent (h : ∀ step ∈ run.steps, step.IsSilent) : run.reports = [] := by
  refine List.filterMap_eq_nil_iff.2 fun step hstep => ?_
  obtain ⟨notice, rfl⟩ | ⟨detail, rfl⟩ | ⟨service, mode, rfl⟩ := h step hstep <;> rfl

theorem launches_of_silent (h : ∀ step ∈ run.steps, step.IsSilent) : run.launches = [] := by
  refine List.filterMap_eq_nil_iff.2 fun step hstep => ?_
  obtain ⟨notice, rfl⟩ | ⟨detail, rfl⟩ | ⟨service, mode, rfl⟩ := h step hstep <;> rfl

end Silent

section Execute
variable {request : Request} {real : Environment} {source : Source} {launcher : Launcher}

theorem execute_of_failed {e : ExecError}
    (h : (prepare real request.services source request.policy).result = .error e) :
    execute request real source launcher =
      { steps := (prepare real request.services source request.policy).steps
        result := .error e } := by
  unfold execute
  exact Run.bind_of_error h _

theorem execute_of_prepared {injection : Injection}
    (h : (prepare real request.services source request.policy).result = .ok injection) :
    execute request real source launcher =
      { steps := (prepare real request.services source request.policy).steps ++
          (injection.collisions.map .report ++
            [.announce (.environment injection.env.names),
              .launch request.command request.args injection.env])
        result := (launcher request.command request.args injection.env).mapError .launch } := by
  unfold execute
  rw [Run.bind_of_ok h]
  rfl

theorem reports_of_prepared {injection : Injection}
    (h : (prepare real request.services source request.policy).result = .ok injection) :
    (execute request real source launcher).reports = injection.collisions := by
  have hsilent : (prepare real request.services source request.policy).reports = [] :=
    reports_of_silent silent_prepare
  unfold Run.reports at hsilent ⊢
  rw [execute_of_prepared h, List.filterMap_append, hsilent, List.nil_append,
    List.filterMap_append, List.filterMap_map]
  exact (List.append_nil _).trans List.filterMap_some

theorem launches_of_prepared {injection : Injection}
    (h : (prepare real request.services source request.policy).result = .ok injection) :
    (execute request real source launcher).launches =
      [(request.command, request.args, injection.env)] := by
  have hsilent : (prepare real request.services source request.policy).launches = [] :=
    launches_of_silent silent_prepare
  unfold Run.launches at hsilent ⊢
  rw [execute_of_prepared h, List.filterMap_append, hsilent, List.nil_append,
    List.filterMap_append, List.filterMap_map]
  simp

theorem LaunchError.exitCode_launch (e : LaunchError) :
    (ExecError.launch e).exitCode = 126 ∨ (ExecError.launch e).exitCode = 127 := by
  cases e with
  | notFound => exact .inr rfl
  | permissionDenied => exact .inl rfl
  | refused => exact .inl rfl

theorem execute_of_rejected {e : ExecError} (h : checkServices request.services = .error e) :
    execute request real source launcher = { steps := [], result := .error e } := by
  have hprepared : prepare real request.services source request.policy =
      { steps := [], result := .error e } := prepare_of_rejected h
  rw [execute_of_failed (congrArg Run.result hprepared), hprepared]

/-- The exit code of an error tells whether the command was launched. -/
theorem exitCode_of_execute_error {e : ExecError}
    (h : (execute request real source launcher).result = .error e) :
    (e.exitCode = 125 ∧ (execute request real source launcher).launches = []) ∨
      ((e.exitCode = 126 ∨ e.exitCode = 127) ∧
        (execute request real source launcher).launches ≠ []) := by
  cases hprepared : (prepare real request.services source request.policy).result with
  | error e' =>
    left
    rw [execute_of_failed hprepared] at h ⊢
    cases h
    exact ⟨prepare_eq_error hprepared, launches_of_silent silent_prepare⟩
  | ok injection =>
    right
    have hlaunched : (execute request real source launcher).launches =
        [(request.command, request.args, injection.env)] := launches_of_prepared hprepared
    rw [execute_of_prepared hprepared] at h
    cases hlaunch : launcher request.command request.args injection.env with
    | ok code =>
      rw [hlaunch] at h
      cases h
    | error cause =>
      rw [hlaunch] at h
      cases h
      refine ⟨cause.exitCode_launch, ?_⟩
      rw [hlaunched]
      exact List.cons_ne_nil _ _

end Execute

/-- **An execution goes through its stages in order.** -/
theorem execute_stages (request : Request) (real : Environment) (source : Source)
    (launcher : Launcher) :
    let run := execute request real source launcher
    let prepared := prepare real request.services source request.policy
    let injected := inject real request.services source request.policy
    ((∃ service ∈ request.services, Service.check service ≠ .ok ()) →
      run.steps = [] ∧ ∃ before service after reason,
        request.services = before ++ service :: after ∧
        (∀ earlier ∈ before, Service.check earlier = .ok ()) ∧
        Service.check service = .error (.invalidService service reason) ∧
        run.result = .error (.invalidService service reason)) ∧
    ((∀ service ∈ request.services, Service.check service = .ok ()) →
      prepared.result = injected.result ∧
      prepared.steps = request.policy.announcements ++ injected.steps) ∧
    (∀ e, prepared.result = .error e →
      run.result = .error e ∧ run.steps = prepared.steps ∧ run.reports = [] ∧ run.launches = []) ∧
    (∀ injection, prepared.result = .ok injection →
      run.reports = injection.collisions ∧
      run.launches = [(request.command, request.args, injection.env)] ∧
      run.steps = prepared.steps ++ (injection.collisions.map .report ++
        [.announce (.environment injection.env.names),
          .launch request.command request.args injection.env]) ∧
      run.result = (launcher request.command request.args injection.env).mapError .launch) ∧
    (∀ e, run.result = .error e →
      (e.exitCode = 125 ↔ run.launches = []) ∧
      (run.launches ≠ [] → e.exitCode = 126 ∨ e.exitCode = 127)) := by
  dsimp only
  refine ⟨fun hbad => ?_, fun hvalid => ?_, fun e hfailed => ?_, fun injection hprepared => ?_,
    fun e herror => ?_⟩
  · obtain ⟨service, hmem, hservice⟩ := hbad
    cases hcheck : checkServices request.services with
    | ok => exact absurd (checkServices_eq_ok_iff.1 hcheck service hmem) hservice
    | error e =>
      rw [execute_of_rejected hcheck]
      obtain ⟨before, first, after, reason, hsplit, hbefore, hfirst, rfl⟩ :=
        checkServices_eq_error hcheck
      exact ⟨rfl, before, first, after, reason, hsplit, hbefore, hfirst, rfl⟩
  · rw [prepare_of_checked (checkServices_eq_ok_iff.2 hvalid)]
    exact ⟨rfl, rfl⟩
  · rw [execute_of_failed hfailed]
    exact ⟨rfl, rfl, reports_of_silent silent_prepare, launches_of_silent silent_prepare⟩
  · refine ⟨reports_of_prepared hprepared, launches_of_prepared hprepared, ?_, ?_⟩
    · rw [execute_of_prepared hprepared]
    · rw [execute_of_prepared hprepared]
  · rcases exitCode_of_execute_error herror with ⟨hcode, hlaunches⟩ | ⟨hcode, hlaunches⟩
    · exact ⟨by simp [hcode, hlaunches], fun hne => absurd hlaunches hne⟩
    · refine ⟨⟨fun h => ?_, fun h => absurd h hlaunches⟩, fun _ => hcode⟩
      omega

/-- A request over two services that share a name. -/
def sampleRequest (services : List String) (policy : Policy) : Request :=
  { services, command := "env", args := ["-0"], policy }

theorem execute_stages_three_endings :
    let real : Environment := .ofPairs [("HOME", "/tmp"), ("TOKEN", "inherited")]
    let refusing : Launcher := fun command _ _ => .error (.notFound command)
    let rejected := execute (sampleRequest ["base", "bad name"] {}) real sampleRegister.source
      refusing
    let unfilled := execute
      (sampleRequest ["base"] { strict := true, placeholder := "/tmp", verbatimKeys := true }) real
      sampleRegister.source refusing
    let refused := execute (sampleRequest ["base", "override"] { verbatimKeys := true }) real
      sampleRegister.source refusing
    rejected.steps = [] ∧
      (unfilled.result = .error (.unfilled "HOME") ∧ unfilled.launches = []) ∧
      refused.reports =
        [⟨"base", "TOKEN", .overwritten⟩, ⟨"override", "TOKEN", .overwritten⟩] ∧
      refused.launches ≠ [] ∧ refused.result = .error (.launch (.notFound "env")) ∧
      (ExecError.launch (.notFound "env")).exitCode = 127 := by
  dsimp only
  refine ⟨?_, ?_, ?_⟩
  · have hfault : Service.fault? "bad name" = some (.invalidChar ' ') := by decide +kernel
    refine ((execute_stages (sampleRequest ["base", "bad name"] {}) _ _ _).1
      ⟨"bad name", by decide, ?_⟩).1
    rw [Service.check, hfault]
    exact nofun
  · have h := (execute_stages
      (sampleRequest ["base"] { strict := true, placeholder := "/tmp", verbatimKeys := true })
      (.ofPairs [("HOME", "/tmp"), ("TOKEN", "inherited")]) sampleRegister.source
      (fun command _ _ => .error (.notFound command))).2.2.1 (.unfilled "HOME") (by cbv)
    exact ⟨h.1, h.2.2.2⟩
  · obtain ⟨hreports, hlaunches, -, hresult⟩ := (execute_stages
      (sampleRequest ["base", "override"] { verbatimKeys := true })
      (.ofPairs [("HOME", "/tmp"), ("TOKEN", "inherited")]) sampleRegister.source
      (fun command _ _ => .error (.notFound command))).2.2.2.1
      { env := .ofPairs [("HOME", "/tmp"), ("TOKEN", "two"), ("ZONE", "eu"), ("API_KEY", "k")]
        collisions :=
          [⟨"base", "TOKEN", .overwritten⟩, ⟨"override", "TOKEN", .overwritten⟩] } (by cbv)
    refine ⟨hreports, ?_, hresult, rfl⟩
    rw [hlaunches]
    exact List.cons_ne_nil _ _

end EnvInject
