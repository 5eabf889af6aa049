import EnvInject.Proofs.Execution.Preparing
import EnvInject.Proofs.Tool.Executing
import Mathlib

/-!
# The exit status of an execution

An execution ends with the exit code of its command, which always fits into a byte. The codes of its
own errors are never 0, so that 0 stands for nothing but the success of the command.

* `Ending.low_seven_bits`, `Ending.second_byte` : the fields of a wait status as numbers;
* `Ending.ofWord_cases` : the three ways to read a wait status;
* `Ending.exitCode_ofWord_le`, `Ending.exitCode_eq_zero_iff` : codes of endings;
* `Launcher.ofEndings`, `Launcher.ofWords` : launchers that take the exit code of an ending, or of a
  wait status; `Host.launcher_eq_ofEndings` : so does that of a host;
* `Tool.status_of_failed`, `Tool.status_of_refused`, `Tool.status_of_ended` : the status after each
  way an execution can go; `Tool.status_eq_zero_iff` : one of them ends with 0;
* `Tool.exit_status_faithful` : what the status says of the command.
-/

namespace EnvInject

/-! ## Wait statuses -/

namespace Ending

theorem low_seven_bits (word : UInt32) : (word &&& 0x7F).toNat = word.toNat % 128 := by
  change word.toNat &&& (2 ^ 7 - 1) = _
  exact Nat.and_two_pow_sub_one_eq_mod _ _

theorem second_byte (word : UInt32) :
    ((word >>> 8) &&& 0xFF).toNat = word.toNat / 256 % 256 := by
  have hshift : (word >>> 8).toNat = word.toNat / 2 ^ 8 := by
    rw [UInt32.toNat_shiftRight, Nat.shiftRight_eq_div_pow]
    rfl
  change (word >>> 8).toNat &&& (2 ^ 8 - 1) = _
  rw [Nat.and_two_pow_sub_one_eq_mod, hshift]
  rfl

theorem ofWord_cases (word : UInt32) :
    word.toNat % 128 = 0 ∧ ofWord word = .exited (word.toNat / 256 % 256) ∨
    (0 < word.toNat % 128 ∧ word.toNat % 128 < 127) ∧ ofWord word = .killed (word.toNat % 128) ∨
    word.toNat % 128 = 127 ∧ ofWord word = .unsettled := by
  unfold ofWord
  rw [low_seven_bits, second_byte]
  by_cases hexited : word.toNat % 128 = 0
  · exact .inl ⟨hexited, if_pos hexited⟩
  · right
    dsimp only
    rw [if_neg hexited]
    by_cases hunsettled : word.toNat % 128 = 127
    · exact .inr ⟨hunsettled, if_pos hunsettled⟩
    · exact .inl ⟨by omega, if_neg hunsettled⟩

theorem exitCode_ofWord (word : UInt32) :
    (word.toNat % 128 = 0 → (ofWord word).exitCode = word.toNat / 256 % 256) ∧
    (∀ signal, word.toNat % 128 = signal → 0 < signal → signal < 127 →
      (ofWord word).exitCode = 128 + signal) ∧
    (word.toNat % 128 = 127 → (ofWord word).exitCode = 1) := by
  rcases ofWord_cases word with ⟨hlow, h⟩ | ⟨hlow, h⟩ | ⟨hlow, h⟩
  · rw [h]
    exact ⟨fun _ => rfl, by omega, by omega⟩
  · rw [h]
    exact ⟨by omega, fun signal hsignal _ _ => hsignal ▸ rfl, by omega⟩
  · rw [h]
    exact ⟨by omega, by omega, fun _ => rfl⟩

theorem exitCode_ofWord_le (word : UInt32) : (ofWord word).exitCode ≤ 255 := by
  rcases ofWord_cases word with ⟨_, h⟩ | ⟨_, h⟩ | ⟨_, h⟩ <;> rw [h, exitCode] <;> omega

theorem ofWord_eq_exited_zero_iff {word : UInt32} :
    ofWord word = .exited 0 ↔ word.toNat % 128 = 0 ∧ word.toNat / 256 % 256 = 0 := by
  rcases ofWord_cases word with ⟨hlow, h⟩ | ⟨hlow, h⟩ | ⟨hlow, h⟩
  · rw [h, exited.injEq]
    exact ⟨fun hcode => ⟨hlow, hcode⟩, And.right⟩
  · rw [h]
    exact ⟨nofun, by omega⟩
  · rw [h]
    exact ⟨nofun, by omega⟩

/-- Whether there was a core dump does not matter. -/
theorem ofWord_flip_core_bit (word : UInt32) : ofWord (word ^^^ 0x80) = ofWord word := by
  have hflip : (word ^^^ 0x80).toNat = word.toNat ^^^ 128 := UInt32.toNat_xor word 0x80
  have hlow : (word.toNat ^^^ 128) % 128 = word.toNat % 128 :=
    (Nat.xor_mod_two_pow (n := 7)).trans (Nat.xor_zero _)
  have hcode : (word.toNat ^^^ 128) / 256 = word.toNat / 256 :=
    (Nat.xor_div_two_pow (n := 8)).trans (Nat.xor_zero _)
  unfold ofWord
  rw [low_seven_bits, low_seven_bits, second_byte, second_byte, hflip, hlow, hcode]

theorem exitCode_eq_zero_iff {ending : Ending} : ending.exitCode = 0 ↔ ending = .exited 0 := by
  cases ending with
  | exited code => rw [exitCode, exited.injEq]
  | killed signal => exact ⟨fun h => absurd h (by simp [exitCode]), nofun⟩
  | unsettled => exact ⟨nofun, nofun⟩

end Ending

/-! ## Launchers that wait -/

namespace Launcher

/-- The launcher that gives the exit code of how the command ended. -/
def ofEndings (wait : String → List String → Environment → Except LaunchError Ending) :
    Launcher :=
  fun command args env => (wait command args env).map fun ending => ending.exitCode

/-- The launcher that gives the exit code of the wait status of the command. -/
def ofWords (wait : String → List String → Environment → Except LaunchError UInt32) : Launcher :=
  ofEndings fun command args env => (wait command args env).map Ending.ofWord

end Launcher

theorem Host.launcher_eq_ofEndings (host : Host) :
    host.launcher = .ofEndings fun command args env =>
      (Command.outcome host command args env).map Outcome.ending := by
  funext command args env
  unfold Host.launcher Launcher.ofEndings
  dsimp only
  cases Command.outcome host command args env <;> rfl

/-! ## The status -/

namespace Tool

theorem exitByte_eq_zero_iff {code : Int} : exitByte code = 0 ↔ code = 0 := by
  unfold exitByte
  split <;> omega

theorem exitByte_of_le {code : Nat} (h : code ≤ 255) : exitByte code = code := by
  unfold exitByte
  rw [if_pos (by omega), Int.toNat_natCast]

section Status
variable {host : Host} {verbose : Bool} {request : Request} {real : Environment} {source : Source}
  {wait : String → List String → Environment → Except LaunchError Ending}

theorem ending_of_ok {run : Run Int} {code : Int} (h : run.result = .ok code) :
    (outcomeOf host verbose run).ending = .exited (exitByte code) := by
  unfold outcomeOf
  rw [h]
  rfl

theorem ending_of_error {run : Run Int} {e : ExecError} (h : run.result = .error e) :
    (outcomeOf host verbose run).ending = .exited e.exitCode := by
  unfold outcomeOf
  rw [h]
  rfl

theorem status_of_failed {e : ExecError}
    (h : (prepare real request.services source request.policy).result = .error e) :
    (outcomeOf host verbose (execute request real source (.ofEndings wait))).ending.exitCode =
      125 := by
  have hexecuted : (execute request real source (.ofEndings wait)).result = .error e := by
    rw [execute_of_failed h]
  rw [ending_of_error hexecuted, Ending.exitCode, prepare_eq_error h, ExecError.injectionFailed]

section Prepared
variable {injection : Injection}

theorem status_of_refused {cause : LaunchError}
    (hprepared : (prepare real request.services source request.policy).result = .ok injection)
    (hrefused : wait request.command request.args injection.env = .error cause) :
    (outcomeOf host verbose (execute request real source (.ofEndings wait))).ending.exitCode =
      (ExecError.launch cause).exitCode := by
  have hexecuted : (execute request real source (.ofEndings wait)).result =
      .error (.launch cause) := by
    rw [execute_of_prepared hprepared, Launcher.ofEndings, hrefused]
    rfl
  rw [ending_of_error hexecuted, Ending.exitCode]

theorem status_of_ended {ending : Ending}
    (hprepared : (prepare real request.services source request.policy).result = .ok injection)
    (hended : wait request.command request.args injection.env = .ok ending) :
    (outcomeOf host verbose (execute request real source (.ofEndings wait))).ending.exitCode =
      exitByte ending.exitCode := by
  have hexecuted : (execute request real source (.ofEndings wait)).result =
      .ok ending.exitCode := by
    rw [execute_of_prepared hprepared, Launcher.ofEndings, hended]
    rfl
  rw [ending_of_ok hexecuted, Ending.exitCode]

theorem status_of_prepared_eq_zero_iff
    (hprepared : (prepare real request.services source request.policy).result = .ok injection) :
    (outcomeOf host verbose (execute request real source (.ofEndings wait))).ending.exitCode = 0 ↔
      wait request.command request.args injection.env = .ok (.exited 0) := by
  cases hended : wait request.command request.args injection.env with
  | error cause =>
    rw [status_of_refused hprepared hended]
    refine ⟨fun hzero => ?_, nofun⟩
    rcases cause.exitCode_launch with h | h <;> omega
  | ok ending =>
    rw [status_of_ended hprepared hended, exitByte_eq_zero_iff, Int.natCast_eq_zero,
      Ending.exitCode_eq_zero_iff, Except.ok.injEq]

end Prepared

theorem status_eq_zero_iff :
    (outcomeOf host verbose (execute request real source (.ofEndings wait))).ending.exitCode = 0 ↔
      Ready real request.services source request.policy ∧
      ∃ injection, (prepare real request.services source request.policy).result = .ok injection ∧
        wait request.command request.args injection.env = .ok (.exited 0) := by
  rw [← prepare_succeeds_iff]
  cases hprepared : (prepare real request.services source request.policy).result with
  | error e =>
    rw [status_of_failed hprepared]
    exact ⟨nofun, fun ⟨⟨_, h⟩, _⟩ => nomatch h⟩
  | ok injection =>
    rw [status_of_prepared_eq_zero_iff hprepared]
    constructor
    · intro hzero
      exact ⟨⟨injection, rfl⟩, injection, rfl, hzero⟩
    · rintro ⟨-, _, h, hzero⟩
      cases h
      exact hzero

end Status

section Words
variable {host : Host} {verbose : Bool} {request : Request} {real : Environment} {source : Source}
  {wait : String → List String → Environment → Except LaunchError UInt32}

theorem status_of_word {injection : Injection} {word : UInt32}
    (hprepared : (prepare real request.services source request.policy).result = .ok injection)
    (hword : wait request.command request.args injection.env = .ok word) :
    (outcomeOf host verbose (execute request real source (.ofWords wait))).ending.exitCode =
      (Ending.ofWord word).exitCode := by
  rw [Launcher.ofWords, status_of_ended hprepared (map_eq_ok_iff.2 ⟨word, hword, rfl⟩),
    exitByte_of_le (Ending.exitCode_ofWord_le word)]

theorem status_of_words_eq_zero_iff :
    (outcomeOf host verbose (execute request real source (.ofWords wait))).ending.exitCode = 0 ↔
      Ready real request.services source request.policy ∧
      ∃ injection word,
        (prepare real request.services source request.policy).result = .ok injection ∧
        wait request.command request.args injection.env = .ok word ∧
        word.toNat % 128 = 0 ∧ word.toNat / 256 % 256 = 0 := by
  rw [Launcher.ofWords, status_eq_zero_iff]
  simp only [map_eq_ok_iff, Ending.ofWord_eq_exited_zero_iff, exists_and_left]

end Words

theorem status_of_executes_eq_zero_iff {host : Host} {args : List String} {line : CommandLine}
    {task : ExecTask} {settings : Settings} {store : Store}
    (h : Executes host args line task settings store) :
    (run host args).ending.exitCode = 0 ↔
      Ready host.captured.environment task.services (store.source host)
        (policy host settings task) ∧
      ∃ injection o, (prepare host.captured.environment task.services (store.source host)
          (policy host settings task)).result = .ok injection ∧
        Command.outcome host task.command task.args injection.env = .ok o ∧
        o.ending = .exited 0 := by
  rw [run_of_executes h, Host.launcher_eq_ofEndings, status_eq_zero_iff]
  simp only [map_eq_ok_iff, exists_and_left]
  rfl

/-! ## A host with a script -/

/-- The sample host with a shell, and a script for it that does nothing. -/
def hostWithScript : Host :=
  let host := hostWithSettings []
  let runnable : Option Permissions := some { executable := true }
  { host with
    tree := (host.tree.write "/bin/sh" Program.mark runnable).write "/bin/nothing"
      (Utf8.encode "#!/bin/sh\n") runnable }

def scriptTask : ExecTask where
  services := ["app"]
  command := "/bin/nothing"

theorem executes_hostWithScript :
    Executes hostWithScript ["exec", "app", "--", "/bin/nothing"] { task := .exec scriptTask }
      scriptTask sampleSettings { root := "/s", engine := .file } where
  understood := by decide +kernel
  asked := rfl
  opened := openStore_eq_ok_iff.2
    ⟨by decide +kernel, Settings.openStore_eq_ok_iff.2 ⟨by decide +kernel, rfl⟩⟩

theorem outcome_hostWithScript {env : Environment} (henv : env.pairs = [("TOKEN", "one")]) :
    Command.outcome hostWithScript "/bin/nothing" [] env = .ok {} := by
  have hresolved : Command.resolve hostWithScript "/bin/nothing" = .ok "/bin/nothing" := by
    decide +kernel
  have hsorted : Command.sorted env = .ofPairs [("TOKEN", "one")] := by
    unfold Command.sorted
    rw [henv, List.mergeSort_singleton]
  have hrendered : (Environment.ofPairs [("TOKEN", "one")]).rendered = ["TOKEN=one"] := by
    decide +kernel
  have hslash : "/bin/nothing".contains '/' = true := by simp
  have hstarted : start.first
      { tree := hostWithScript.tree
        path := "/bin/nothing"
        name := "/bin/nothing"
        args := []
        env := .ofPairs [("TOKEN", "one")] } .notFound ["/bin/nothing"] = .ok {} := by
    decide +kernel
  refine bind_eq_ok.2 ⟨"/bin/nothing", hresolved, ?_⟩
  unfold Command.startAt Starter.search programPaths
  dsimp only
  rw [if_pos hslash, if_pos hslash, hsorted, hrendered, if_neg (by simp [Command.hasNul]),
    if_neg (by decide +kernel), hstarted]
  rfl

/-! ## Faithfulness -/

/-- **The exit status is faithful to the command.** -/
theorem exit_status_faithful (host : Host) (verbose : Bool) (request : Request)
    (real : Environment) (source : Source)
    (wait : String → List String → Environment → Except LaunchError UInt32) :
    let prepared := (prepare real request.services source request.policy).result
    let status :=
      (outcomeOf host verbose (execute request real source (.ofWords wait))).ending.exitCode
    (∀ word : UInt32,
      let code := (Ending.ofWord word).exitCode
      code ≤ 255 ∧ exitByte code = code ∧
      (word.toNat % 128 = 0 → code = word.toNat / 256 % 256) ∧
      (∀ signal, word.toNat % 128 = signal → 0 < signal → signal < 127 →
        code = 128 + signal ∧ 129 ≤ code ∧ code ≤ 254) ∧
      (word.toNat % 128 = 127 → code = 1) ∧
      (Ending.ofWord (word ^^^ 0x80)).exitCode = code) ∧
    (∀ injection word, prepared = .ok injection →
      wait request.command request.args injection.env = .ok word →
      status = (Ending.ofWord word).exitCode) ∧
    (status = 0 ↔ Ready real request.services source request.policy ∧
      ∃ injection word, prepared = .ok injection ∧
        wait request.command request.args injection.env = .ok word ∧
        word.toNat % 128 = 0 ∧ word.toNat / 256 % 256 = 0) ∧
    ∀ args line task settings store, Executes host args line task settings store →
      let real := host.captured.environment
      let source := store.source host
      let policy := policy host settings task
      ((run host args).ending.exitCode = 0 ↔ Ready real task.services source policy ∧
        ∃ injection o, (prepare real task.services source policy).result = .ok injection ∧
          Command.outcome host task.command task.args injection.env = .ok o ∧
          o.ending = .exited 0) := by
  intro prepared status
  refine ⟨fun word => ?_, fun injection word hprepared hword => ?_, ?_,
    fun args line task settings store h => ?_⟩
  · have hle := Ending.exitCode_ofWord_le word
    obtain ⟨hexited, hkilled, hunsettled⟩ := Ending.exitCode_ofWord word
    refine ⟨hle, exitByte_of_le hle, hexited, fun signal hsignal hpos hlt => ?_, hunsettled, ?_⟩
    · have hcode := hkilled signal hsignal hpos hlt
      omega
    · rw [Ending.ofWord_flip_core_bit]
  · exact status_of_word hprepared hword
  · exact status_of_words_eq_zero_iff
  · exact status_of_executes_eq_zero_iff h

theorem exit_status_faithful_each_ending :
    let request := sampleRequest ["base", "override"] { verbatimKeys := true }
    let real : Environment := .ofPairs [("HOME", "/tmp")]
    let status (word : UInt32) : Nat :=
      (outcomeOf hostWithScript false (execute request real sampleRegister.source
        (.ofWords fun _ _ _ => .ok word))).ending.exitCode
    status 0 = 0 ∧ status 0x300 = 3 ∧ status 0x8B = 139 ∧ status 0x137F = 1 ∧
      (run hostWithScript ["exec", "app", "--", "/bin/nothing"]).ending.exitCode = 0 := by
  intro request real status
  have hprepared : (prepare real request.services sampleRegister.source request.policy).result =
      .ok { env := .ofPairs
              [("HOME", "/tmp"), ("TOKEN", "two"), ("ZONE", "eu"), ("API_KEY", "k")]
            collisions := [⟨"override", "TOKEN", .overwritten⟩] } := by
    cbv
  have hfaithful (word : UInt32) := exit_status_faithful hostWithScript false request real
    sampleRegister.source fun _ _ _ => .ok word
  obtain ⟨hcode, -, -, hrun⟩ := hfaithful 0
  have hended (word : UInt32) : status word = (Ending.ofWord word).exitCode :=
    (hfaithful word).2.1 _ word hprepared rfl
  refine ⟨?_, ?_, ?_, ?_, ?_⟩
  · exact (hfaithful 0).2.2.1.2 ⟨prepare_succeeds_iff.1 ⟨_, hprepared⟩, _, 0, hprepared, rfl,
      by decide, by decide⟩
  · exact (hended 0x300).trans ((hcode 0x300).2.2.1 (by decide))
  · exact (hended 0x8B).trans
      ((hcode 0x8B).2.2.2.1 11 (by decide) (by decide) (by decide)).1
  · exact (hended 0x137F).trans ((hcode 0x137F).2.2.2.2.1 (by decide))
  · have hvariables : (prepare hostWithScript.captured.environment ["app"]
        (Store.source { root := "/s", engine := .file } hostWithScript)
        (policy hostWithScript sampleSettings scriptTask)).result.toOption.bind
          (fun injection => some injection.env.pairs) = some [("TOKEN", "one")] := by
      decide +kernel
    obtain ⟨injection, hinjection, henv⟩ := exists_ok_of_toOption hvariables
    exact (hrun _ _ _ _ _ executes_hostWithScript).2
      ⟨prepare_succeeds_iff.1 ⟨injection, hinjection⟩, injection, {}, hinjection,
        outcome_hostWithScript (Option.some.inj henv), rfl⟩

end Tool

end EnvInject
