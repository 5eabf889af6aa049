import EnvInject.Proofs.Execution.Stages
import EnvInject.Proofs.Injection.Agreement
import EnvInject.Proofs.Settings.InForce
import EnvInject.Tool
import Mathlib

/-!
# Invocations that come to execute

An invocation executes its command once its command line was understood, its settings were checked
and its store was opened. The value that marks a placeholder may be given once more after the check.

* `run_of_doctor`, `run_of_exec` : the two tasks;
* `Executes`, `run_of_executes` : how far an invocation gets, and what it then runs;
* `Executes.usable`, `Executes.root`, `Executes.engine` : the settings and the store it works with;
* `prepare_spares` : strict mode leaves alone what is no placeholder;
* `executes_checked` : which of the checked settings an execution goes by.
-/

namespace EnvInject

/-! ## What is no placeholder -/

section Strict
variable {real : Environment} {policy : Policy} {name value : String}

theorem settle_spares (hstrict : policy.strict = true) (hreal : real.get? name = some value)
    (hvalue : value ≠ policy.placeholder) (sets : List (String × SecretSet)) :
    settle real policy sets ≠ .error (.unfilled name) ∧
    ∀ injection, settle real policy sets = .ok injection → policy.pristine = false →
      injection.env.get? name = some value := by
  have hother : real.get? name ≠ some policy.placeholder := fun h =>
    hvalue (Option.some.inj (hreal.symm.trans h))
  rw [settle_strict real sets hstrict]
  rcases strictFill_cases real policy (union sets) with ⟨other, hunfilled, herror⟩ | ⟨hfilled, hok⟩
  · rw [herror]
    refine ⟨fun h => hother ?_, nofun⟩
    cases h
    exact hunfilled.1
  · rw [hok]
    refine ⟨nofun, fun injection h hpristine => ?_⟩
    cases h
    rw [if_neg (by simp [hpristine]), (filled_fillPlaceholders hfilled).kept name hother, hreal]

/-- Strict mode neither fails over a variable with another value nor changes it. -/
theorem prepare_spares (hstrict : policy.strict = true) (hreal : real.get? name = some value)
    (hvalue : value ≠ policy.placeholder) (services : List String) (source : Source) :
    (prepare real services source policy).result ≠ .error (.unfilled name) ∧
    ∀ injection, (prepare real services source policy).result = .ok injection →
      policy.pristine = false → injection.env.get? name = some value := by
  cases hcheck : checkServices services with
  | error e =>
    obtain ⟨_, _, _, _, _, _, _, rfl⟩ := checkServices_eq_error hcheck
    rw [prepare_of_rejected hcheck]
    exact ⟨nofun, nofun⟩
  | ok =>
    rw [prepare_of_checked hcheck, result_inject]
    cases hsets : (fetchAll source policy.keyMode policy.strategy.detail services).result with
    | error e =>
      obtain ⟨cause, rfl⟩ := fetchAll_eq_error hsets
      exact ⟨nofun, nofun⟩
    | ok sets => exact settle_spares hstrict hreal hvalue sets

end Strict

namespace Tool

/-! ## As far as the execution -/

/-- The invocation comes to execute `task`, with these settings, on this store. -/
structure Executes (host : Host) (args : List String) (line : CommandLine) (task : ExecTask)
    (settings : Settings) (store : Store) : Prop where
  understood : commandLine host args = .ok line
  asked : line.task = .exec task
  opened : openStore host line = .ok (settings, store)

variable {host : Host} {args : List String} {line : CommandLine} {task : ExecTask}
  {settings : Settings} {store : Store}

theorem run_of_doctor (hline : commandLine host args = .ok line) (htask : line.task = .doctor) :
    run host args = doctor host line := by
  unfold run
  rw [hline]
  dsimp only
  rw [htask]

theorem run_of_exec (hline : commandLine host args = .ok line) (htask : line.task = .exec task) :
    run host args = exec host line task := by
  unfold run
  rw [hline]
  dsimp only
  rw [htask]

theorem run_of_executes (h : Executes host args line task settings store) :
    run host args = outcomeOf host line.verbose
      (execute (request host settings task) host.captured.environment (store.source host)
        host.launcher) := by
  rw [run_of_exec h.understood h.asked]
  unfold exec
  rw [h.opened]

theorem openStore_eq_ok_iff :
    openStore host line = .ok (settings, store) ↔
      Settings.inForce host line.config line.store = .ok settings ∧
        settings.openStore host = .ok store := by
  unfold openStore
  rw [bind_eq_ok]
  constructor
  · rintro ⟨_, hsettings, h⟩
    obtain ⟨_, hstore, h⟩ := bind_eq_ok.1 h
    cases h
    exact ⟨hsettings, hstore⟩
  · rintro ⟨hsettings, hstore⟩
    exact ⟨settings, hsettings, bind_eq_ok.2 ⟨store, hstore, rfl⟩⟩

theorem Executes.usable (h : Executes host args line task settings store) : settings.Usable := by
  obtain ⟨hsettings, -⟩ := openStore_eq_ok_iff.1 h.opened
  obtain ⟨_, -, -, husable⟩ := Settings.inForce_eq_ok_iff.1 hsettings
  exact husable

theorem Executes.root (h : Executes host args line task settings store) :
    store.root = settings.storePathOn host :=
  (Settings.openStore_eq_ok_iff.1 (openStore_eq_ok_iff.1 h.opened).2).1

theorem Executes.engine (h : Executes host args line task settings store) :
    settings.engine = store.engine.text :=
  (Settings.openStore_eq_ok_iff.1 (openStore_eq_ok_iff.1 h.opened).2).2

/-- The value that marks a placeholder is empty just if the command line says so: the check saw the
one of the settings. -/
theorem Executes.placeholder_eq_empty_iff (h : Executes host args line task settings store) :
    (policy host settings task).placeholder = "" ↔ task.placeholder = some "" := by
  unfold policy
  cases hgiven : task.placeholder with
  | none => simpa using h.usable.placeholder
  | some given => simp

/-- **An execution goes by settings that passed the check**, but for a value of placeholders that the
command line gives. -/
theorem executes_checked (h : Executes host args line task settings store) :
    let policy := policy host settings task
    let real := host.captured.environment
    let prepared := (prepare real task.services (store.source host) policy).result
    run host args = outcomeOf host line.verbose
      (execute { services := task.services, command := task.command, args := task.args, policy }
        real (store.source host) host.launcher) ∧
    settings.path ≠ "" ∧ store.root = settings.storePathOn host ∧
    (settings.engine = "file" ∨ settings.engine = "sops") ∧ settings.engine = store.engine.text ∧
    settings.placeholder ≠ "" ∧
    (policy.placeholder = "" ↔ task.placeholder = some "") ∧
    (policy.strict = true → task.placeholder ≠ some "" → ∀ name, real.get? name = some "" →
      prepared ≠ .error (.unfilled name) ∧
      ∀ injection, prepared = .ok injection → policy.pristine = false →
        injection.env.get? name = some "") := by
  intro policy real prepared
  have hempty : policy.placeholder = "" ↔ task.placeholder = some "" := h.placeholder_eq_empty_iff
  refine ⟨run_of_executes h, h.usable.path, h.root, ?_, h.engine, h.usable.placeholder, hempty, ?_⟩
  · rw [h.engine]
    cases store.engine
    · exact .inl rfl
    · exact .inr rfl
  · intro hstrict hgiven name hname
    have hvalue : "" ≠ policy.placeholder := fun he => hgiven (hempty.1 he.symm)
    exact prepare_spares hstrict hname hvalue task.services (store.source host)

/-! ## A store with one document -/

def strictTask (placeholder : Option String) : ExecTask where
  services := ["app"]
  strict := true
  placeholder := placeholder
  command := "env"

def sampleSettings : Settings where
  path := "s"
  placeholder := "FILL"

theorem executes_sample {entries args : List String} {task : ExecTask}
    (hline : commandLine (hostWithSettings entries) args = .ok { task := .exec task })
    (hsettings : Settings.inForce (hostWithSettings entries) none none = .ok sampleSettings)
    (hroot : sampleSettings.storePathOn (hostWithSettings entries) = "/s") :
    Executes (hostWithSettings entries) args { task := .exec task } task sampleSettings
      { root := "/s", engine := .file } where
  understood := hline
  asked := rfl
  opened := openStore_eq_ok_iff.2 ⟨hsettings, Settings.openStore_eq_ok_iff.2 ⟨hroot.symm, rfl⟩⟩

theorem executes_checked_empty_variable :
    let host := hostWithSettings ["TOKEN=FILL", "EMPTY="]
    ∃ line task settings store,
      Executes host ["exec", "--strict", "app", "--", "env"] line task settings store ∧
      settings.path = "s" ∧ store.root = "/s" ∧ store.engine = .file ∧
      (policy host settings task).placeholder = "FILL" ∧
      ∃ injection, (prepare host.captured.environment task.services (store.source host)
          (policy host settings task)).result = .ok injection ∧
        injection.env.get? "TOKEN" = some "one" ∧ injection.env.get? "EMPTY" = some "" := by
  intro host
  have h : Executes host ["exec", "--strict", "app", "--", "env"]
      { task := .exec (strictTask none) } (strictTask none)
      sampleSettings { root := "/s", engine := .file } :=
    executes_sample (by decide +kernel) (by decide +kernel) (by decide +kernel)
  have htoken : (prepare host.captured.environment ["app"]
      (Store.source { root := "/s", engine := .file } host)
      (policy host sampleSettings (strictTask none))).result.toOption.bind
        (fun injection => injection.env.get? "TOKEN") = some "one" := by
    decide +kernel
  obtain ⟨injection, hprepared, hvalue⟩ := exists_ok_of_toOption htoken
  obtain ⟨-, -, -, -, -, -, -, hspared⟩ := executes_checked h
  obtain ⟨-, hempty⟩ := hspared rfl (by decide) "EMPTY" (by decide +kernel)
  exact ⟨_, _, _, _, h, rfl, rfl, rfl, rfl, injection, hprepared, hvalue,
    hempty injection hprepared rfl⟩

/-- The value of placeholders that the command line gives is not checked: where it is empty, strict
mode takes empty variables for placeholders. -/
theorem executes_empty_placeholder :
    let host := hostWithSettings ["TOKEN="]
    ∃ line task settings store injection,
      Executes host ["exec", "--strict", "--strict-value=", "app", "--", "env"] line task settings
        store ∧
      settings.Usable ∧ (policy host settings task).placeholder = "" ∧
      host.captured.environment.get? "TOKEN" = some "" ∧
      (prepare host.captured.environment task.services (store.source host)
        (policy host settings task)).result = .ok injection ∧
      injection.env.get? "TOKEN" = some "one" := by
  intro host
  have h : Executes host ["exec", "--strict", "--strict-value=", "app", "--", "env"]
      { task := .exec (strictTask (some "")) } (strictTask (some ""))
      sampleSettings { root := "/s", engine := .file } :=
    executes_sample (by decide +kernel) (by decide +kernel) (by decide +kernel)
  have htoken : (prepare host.captured.environment ["app"]
      (Store.source { root := "/s", engine := .file } host)
      (policy host sampleSettings (strictTask (some "")))).result.toOption.bind
        (fun injection => injection.env.get? "TOKEN") = some "one" := by
    decide +kernel
  obtain ⟨injection, hprepared, hvalue⟩ := exists_ok_of_toOption htoken
  exact ⟨_, _, _, _, injection, h, h.usable, rfl, by decide +kernel, hprepared, hvalue⟩

end Tool

end EnvInject
