import EnvInject.Proofs.Store.Decrypting
import EnvInject.Proofs.Tool.Executing
import Mathlib

/-!
# What a doctor that found all well says of executions

Both tasks come to their settings in the same way and look for the store and for the decrypting
command in the same places. So the doctor finds all well just where an execution with the same
options comes to execute, on a store whose directory is there, with the command that its documents
need.

* `Doctor.decrypting_ne_missing_iff`, `Doctor.passed_examine_iff` : what the doctor looks for;
* `commandLine_of_read`, `SameOptions.commandLine_eq_ok` : command lines that are understood;
* `Serviceable`, `doctor_well_iff` : the verdict, by what it says of an execution;
* `doctor_sound` : an execution after a doctor that found all well.
-/

namespace EnvInject

/-! ## What is looked for -/

namespace Doctor

variable {host : Host} {file store : Option String}

theorem decrypting_ne_missing_iff {settings : Settings} :
    decrypting host settings ≠ .missing ↔
      (settings.engine = Engine.sops.text → Decryption.Installed host) := by
  unfold decrypting
  rw [← Settings.engine?_eq_ok_iff]
  split
  · rename_i hsops
    cases hfind : Command.find host Decryption.command with
    | ok program => exact ⟨fun _ _ => ⟨program, hfind⟩, fun _ => nofun⟩
    | error cause =>
      refine ⟨fun h => absurd rfl h, fun h => ?_⟩
      obtain ⟨_, hfound⟩ := h hsops
      cases hfind.symm.trans hfound
  · rename_i hother
    exact ⟨fun _ hsops => absurd hsops hother, fun _ => nofun⟩

theorem passed_examine_iff :
    (examine host file store).passed = true ↔
      ∃ settings, Settings.inForce host file store = .ok settings ∧
        host.tree.isDirectory (settings.storePathOn host) = true ∧
        (settings.engine = Engine.sops.text → Decryption.Installed host) := by
  unfold examine Report.passed
  cases hsettings : Settings.inForce host file store with
  | error e => exact ⟨nofun, nofun⟩
  | ok settings =>
    change (host.tree.isDirectory _ && decrypting host settings != .missing) = true ↔ _
    rw [Bool.and_eq_true, bne_iff_ne, decrypting_ne_missing_iff]
    constructor
    · intro h
      exact ⟨settings, rfl, h⟩
    · rintro ⟨_, h, hfound⟩
      cases h
      exact hfound

end Doctor

namespace Tool

/-! ## Command lines -/

section CommandLines
variable {host : Host} {args execution : List String} {asked executing line : CommandLine}

theorem commandLine_of_read (hread : CommandLine.read args = .ok asked) :
    commandLine host args =
      if asked.store = none ∧ Settings.storeVariable ∈ host.captured.skipped then .error .misuse
      else .ok { asked with store := asked.store.or (host.get? Settings.storeVariable) } := by
  unfold commandLine
  rw [hread]
  change (if _ then _ else _) = _
  simp only [Bool.and_eq_true, Option.isNone_iff_eq_none, List.contains_iff_mem]
  rfl

/-- The options that both tasks have were given alike; how much is to be told is not one of them. -/
structure SameOptions (a b : CommandLine) : Prop where
  config : a.config = b.config
  store : a.store = b.store

theorem SameOptions.symm (h : SameOptions asked executing) : SameOptions executing asked :=
  ⟨h.config.symm, h.store.symm⟩

/-- Where one of them is understood the other is, with the same options once more. -/
theorem SameOptions.commandLine_eq_ok (hsame : SameOptions asked executing)
    (hread : CommandLine.read args = .ok asked) (hexec : CommandLine.read execution = .ok executing)
    (hline : commandLine host args = .ok line) :
    ∃ line', commandLine host execution = .ok line' ∧ line'.task = executing.task ∧
      SameOptions line line' := by
  rw [commandLine_of_read hread] at hline
  rw [commandLine_of_read hexec, ← hsame.store]
  split at hline
  · cases hline
  · rename_i hunderstood
    cases hline
    rw [if_neg hunderstood]
    exact ⟨_, rfl, rfl, hsame.config, rfl⟩

theorem ending_doctor_eq_iff :
    (doctor host line).ending = .exited 0 ↔
      (Doctor.examine host line.config line.store).passed = true := by
  unfold doctor
  dsimp only
  cases (Doctor.examine host line.config line.store).passed <;> simp

/-- A command line that is not understood ends with another status. -/
theorem ending_run_doctor_iff (hread : CommandLine.read args = .ok asked)
    (htask : asked.task = .doctor) :
    (run host args).ending = .exited 0 ↔
      ∃ line, commandLine host args = .ok line ∧
        (Doctor.examine host line.config line.store).passed = true := by
  by_cases hskipped : asked.store = none ∧ Settings.storeVariable ∈ host.captured.skipped
  · have hline : commandLine host args = .error .misuse :=
      (commandLine_of_read hread).trans (if_pos hskipped)
    have hrun : run host args = stopped .misuse := by
      unfold run
      rw [hline]
    rw [hrun, hline]
    exact ⟨nofun, nofun⟩
  · have hline : commandLine host args =
        .ok { asked with store := asked.store.or (host.get? Settings.storeVariable) } :=
      (commandLine_of_read hread).trans (if_neg hskipped)
    rw [run_of_doctor hline htask, ending_doctor_eq_iff, hline]
    constructor
    · intro hpassed
      exact ⟨_, rfl, hpassed⟩
    · rintro ⟨_, h, hpassed⟩
      cases h
      exact hpassed

end CommandLines

/-! ## The verdict -/

/-- The directory of the store is there, and so is the command that its documents need. -/
structure Serviceable (host : Host) (store : Store) : Prop where
  directory : host.tree.isDirectory store.root = true
  command : store.engine = .sops → Decryption.Installed host

section Verdict
variable {host : Host} {args execution : List String} {asked executing : CommandLine}
  {task : ExecTask} (hread : CommandLine.read args = .ok asked) (htask : asked.task = .doctor)
  (hexec : CommandLine.read execution = .ok executing) (hexecTask : executing.task = .exec task)
  (hsame : SameOptions asked executing)
include hread htask hexec hexecTask hsame

/-- The doctor finds all well just where an execution gets as far as its services, and can be
served. -/
theorem doctor_well_iff :
    (run host args).ending = .exited 0 ↔
      ∃ line settings store, Executes host execution line task settings store ∧
        Serviceable host store := by
  rw [ending_run_doctor_iff hread htask]
  simp only [Doctor.passed_examine_iff]
  constructor
  · rintro ⟨line, hline, settings, hsettings, hdirectory, hcommand⟩
    obtain ⟨line', hline', htask', hoptions⟩ := hsame.commandLine_eq_ok hread hexec hline
    rw [hoptions.config, hoptions.store] at hsettings
    obtain ⟨_, -, -, husable⟩ := Settings.inForce_eq_ok_iff.1 hsettings
    obtain ⟨engine, hengine⟩ := husable.engine
    have hstore : settings.openStore host =
        .ok { root := settings.storePathOn host, engine } :=
      Settings.openStore_eq_ok_iff.2 ⟨rfl, hengine⟩
    refine ⟨line', settings, { root := settings.storePathOn host, engine },
      ⟨hline', htask'.trans hexecTask, openStore_eq_ok_iff.2 ⟨hsettings, hstore⟩⟩, hdirectory, ?_⟩
    rintro rfl
    exact hcommand hengine
  · rintro ⟨line', settings, store, hexecutes, hserviceable⟩
    obtain ⟨line, hline, -, hoptions⟩ :=
      hsame.symm.commandLine_eq_ok hexec hread hexecutes.understood
    obtain ⟨hsettings, -⟩ := openStore_eq_ok_iff.1 hexecutes.opened
    rw [hoptions.config, hoptions.store] at hsettings
    refine ⟨line, hline, settings, hsettings, ?_, fun hsops => hserviceable.command ?_⟩
    · rw [← hexecutes.root]
      exact hserviceable.directory
    · exact Engine.text_injective (hexecutes.engine.symm.trans hsops)

/-- **After a doctor that found all well** an execution with the same options gets as far as its
services, on a store whose directory is there, and no fetch fails for want of the decrypting
command: where an error says that there is none, the command that is there said so. -/
theorem doctor_sound (hwell : (run host args).ending = .exited 0) :
    ∃ line settings store, Executes host execution line task settings store ∧
      run host execution = outcomeOf host line.verbose
        (execute (request host settings task) host.captured.environment (store.source host)
          host.launcher) ∧
      host.tree.isDirectory store.root = true ∧
      ∀ service cause,
        let uninstalled := (Decryption.Fault.notInstalled cause).message
        ¬ store.FailsUninstalled host service cause ∧
        ∀ mode, store.source host service mode = .error (.undecryptable service uninstalled) →
          store.Complains host service uninstalled := by
  obtain ⟨line, settings, store, hexecutes, hserviceable⟩ :=
    (doctor_well_iff hread htask hexec hexecTask hsame).1 hwell
  refine ⟨line, settings, store, hexecutes, run_of_executes hexecutes, hserviceable.directory,
    fun service cause => ?_⟩
  have hinstalled : ¬ store.FailsUninstalled host service cause := fun hfails =>
    Store.not_failsUninstalled (hserviceable.command hfails.engine) hfails
  refine ⟨hinstalled, fun mode hfetch => ?_⟩
  exact (Store.source_says_uninstalled_iff.1 hfetch).resolve_left hinstalled

end Verdict

/-! ## A host with a decrypting command -/

/-- A host whose settings ask for decryption, with a decrypting command and, in another directory
than the settings name, a document. -/
def hostWithSops : Host where
  tree :=
    let settings := "store: \x7bpath: t, engine: sops\x7d\n"
    ((({} : FileTree).write "shadow-exec.yaml" (Utf8.encode settings)).write "s/app.env"
      (Utf8.encode "TOKEN=one\n")).write "/bin/sops" [] (some { executable := true })
  captured := Environment.capture [Utf8.encode "PATH=/usr/bin:/bin"]

def decryptingLine : CommandLine where
  verbose := true
  store := some "s"
  task := .exec { services := ["app"], command := "env" }

theorem doctor_sound_other_directory :
    let store : Store := { root := "/s", engine := .sops }
    (run hostWithSops ["doctor"]).ending = .exited 1 ∧
      (run hostWithSops ["--store=s", "doctor"]).ending = .exited 0 ∧
      (∃ line task settings,
        Executes hostWithSops ["exec", "-v", "app", "--store", "s", "--", "env"] line task settings
          store) ∧
      hostWithSops.tree.isDirectory "/s" = true ∧
      store.locate hostWithSops.tree "app" = .ok "/s/app.env" ∧
      ∀ cause, ¬ store.FailsUninstalled hostWithSops "app" cause := by
  intro store
  have hread : CommandLine.read ["--store=s", "doctor"] =
      .ok { store := some "s", task := .doctor } := by
    decide +kernel
  have hexec : CommandLine.read ["exec", "-v", "app", "--store", "s", "--", "env"] =
      .ok decryptingLine := by
    decide +kernel
  have hwell : (run hostWithSops ["--store=s", "doctor"]).ending = .exited 0 := by decide +kernel
  obtain ⟨line, settings, opened, hexecutes, -, hdirectory, hfetch⟩ :=
    doctor_sound hread rfl hexec rfl ⟨rfl, rfl⟩ hwell
  -- the settings and the store are those that the host has for this command line
  have hline : commandLine hostWithSops ["exec", "-v", "app", "--store", "s", "--", "env"] =
      .ok decryptingLine := by
    decide +kernel
  have hstore : openStore hostWithSops decryptingLine =
      .ok ({ path := "s", engine := "sops" }, store) :=
    openStore_eq_ok_iff.2
      ⟨by decide +kernel, Settings.openStore_eq_ok_iff.2 ⟨by decide +kernel, rfl⟩⟩
  cases hexecutes.understood.symm.trans hline
  cases hexecutes.opened.symm.trans hstore
  exact ⟨by decide +kernel, hwell, ⟨_, _, _, hexecutes⟩, hdirectory, by decide +kernel,
    fun cause => (hfetch "app" cause).1⟩

end Tool

end EnvInject
