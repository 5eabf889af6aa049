import EnvInject.Proofs.Tool.Executing
import Mathlib

/-!
# Where the directory of the store comes from

The command line goes before a variable of the process, the variable before the file of settings, and
the file before the default. Both tasks go by the same directory. A variable that is set and empty
counts as not set when the settings are loaded, but as a value where it stands for the option.

* `writtenPath?`, `path_of_ofFileOrDefault` : what a file of settings says, and the default;
* `chosenPath`, `load_of_ofFileOrDefault` : the order of precedence;
* `Tool.GoesBy`, `Tool.goesBy_of_loaded` : both tasks work with the same settings;
* `store_path_precedence` : the directory of the store, from all its sources.
-/

namespace EnvInject

namespace Settings

open Yaml (Linked)

/-! ## What a file writes -/

/-- The directory of the store that a linked node writes, if it writes one. -/
def pathIn? (l : Linked) : Option String := do
  let fields ← fields? l ["store", "strict_value"] l.root
  let storeFields ← fields? l ["path", "engine"] (← fields.lookup "store")
  scalar? l (← storeFields.lookup "path")

def pathOf? (content : String) : Option String := do
  let node ← (← Yaml.Node.read? content)
  pathIn? (← node.link?)

def pathInFile? (host : Host) (file : String) : Option String := do
  let bytes ← (host.tree.read file).toOption
  pathOf? (← Utf8.decode? bytes)

/-- The directory of the store that the file of settings writes: the file that is named, or the
default one if there is one. -/
def writtenPath? (host : Host) : (file : Option String) → Option String
  | some file => pathInFile? host file
  | none => if host.tree.isFile defaultFile then pathInFile? host defaultFile else none

def defaultPath : String := ({} : Settings).path

theorem textField?_eq_some {l : Linked} {fields : List (String × Yaml.NumberedNode)}
    {name default text : String} (h : textField? l fields name default = some text) :
    text = ((fields.lookup name).bind (scalar? l)).getD default := by
  unfold textField? at h
  cases hnode : fields.lookup name with
  | none =>
    rw [hnode] at h
    exact (Option.some.inj h).symm
  | some node =>
    rw [hnode] at h
    exact congrArg (Option.getD · default) h.symm

theorem path_of_ofNode? {l : Linked} {settings : Settings} (h : ofNode? l = some settings) :
    settings.path = (pathIn? l).getD defaultPath := by
  unfold ofNode? at h
  unfold pathIn?
  simp only [Option.bind_eq_bind, Option.bind_eq_some_iff] at h ⊢
  obtain ⟨fields, hfields, h⟩ := h
  rw [hfields, Option.bind_some]
  cases hnode : fields.lookup "store" with
  | none =>
    rw [hnode] at h
    simp only [Option.bind_eq_some_iff] at h
    obtain ⟨storeFields, hstore, path, hpath, engine, -, placeholder, -, h⟩ := h
    cases hstore
    cases h
    exact textField?_eq_some hpath
  | some node =>
    rw [hnode] at h
    simp only [Option.bind_eq_some_iff] at h
    obtain ⟨storeFields, hstore, path, hpath, engine, -, placeholder, -, h⟩ := h
    cases h
    rw [Option.bind_some, hstore]
    exact textField?_eq_some hpath

theorem path_of_read? {content : String} {settings : Settings} (h : read? content = some settings) :
    settings.path = (pathOf? content).getD defaultPath := by
  unfold read? at h
  unfold pathOf?
  simp only [Option.bind_eq_bind, Option.bind_eq_some_iff] at h ⊢
  obtain ⟨node?, hnode, h⟩ := h
  rw [hnode, Option.bind_some]
  cases node? with
  | none =>
    cases h
    rfl
  | some node =>
    obtain ⟨l, hlink, h⟩ := Option.bind_eq_some_iff.1 h
    rw [Option.bind_some, hlink]
    exact path_of_ofNode? h

theorem path_of_ofFile {host : Host} {file : String} {settings : Settings}
    (h : ofFile host file = .ok settings) :
    settings.path = (pathInFile? host file).getD defaultPath := by
  unfold ofFile at h
  obtain ⟨bytes, hbytes, h⟩ := bind_eq_ok.1 h
  have hread : host.tree.read file = .ok bytes := mapError_eq_ok.1 hbytes
  unfold pathInFile?
  rw [hread]
  cases hdecode : Utf8.decode? bytes with
  | none =>
    rw [hdecode] at h
    cases h
  | some content =>
    rw [hdecode] at h
    dsimp only at h
    cases hsettings : read? content with
    | none =>
      rw [hsettings] at h
      cases h
    | some settings' =>
      rw [hsettings] at h
      cases h
      simpa [Except.toOption, hdecode] using path_of_read? hsettings

/-- Without a file, and where the file does not say, there is the default. -/
theorem path_of_ofFileOrDefault {host : Host} {file : Option String} {settings : Settings}
    (h : ofFileOrDefault host file = .ok settings) :
    settings.path = (writtenPath? host file).getD defaultPath := by
  cases file with
  | some file => exact path_of_ofFile h
  | none =>
    change (if host.tree.isFile defaultFile then _ else _) = _ at h
    change _ = (if host.tree.isFile defaultFile then _ else none : Option String).getD defaultPath
    by_cases hfile : host.tree.isFile defaultFile = true
    · rw [if_pos hfile] at h ⊢
      exact path_of_ofFile h
    · rw [if_neg hfile] at h ⊢
      cases h
      rfl

/-! ## The order of precedence -/

/-- The directory of the store: that of the option if it is given, else that of the variable unless
it is empty, else what the file writes, else the default. -/
def chosenPath (option given written : Option String) : String :=
  (option.or ((given.filter (!·.isEmpty)).or written)).getD defaultPath

/-- The option stands before what was loaded. An empty variable is the exception: it stands for the
option, and was passed over when the settings were loaded. -/
theorem chosenPath_of_option {option given : Option String} (written : Option String)
    (h : option = none → given ≠ some "") :
    (option.or given).getD (chosenPath none given written) = chosenPath option given written := by
  cases option with
  | some path => rfl
  | none =>
    cases given with
    | none => rfl
    | some path =>
      have hpath : path.isEmpty = false :=
        Bool.eq_false_iff.2 fun hempty => h rfl (congrArg some (String.isEmpty_iff.1 hempty))
      simp [chosenPath, Option.filter, hpath]

/-- What is loaded is what the file says, with the directory that goes before it. -/
theorem load_of_ofFileOrDefault {host : Host} {file : Option String} {settings : Settings}
    (h : ofFileOrDefault host file = .ok settings) :
    load host file = .ok { settings with
      path := chosenPath none (host.get? storeVariable) (writtenPath? host file) } := by
  unfold load
  rw [h]
  change Except.ok { settings with path := (host.nonEmpty? storeVariable).getD settings.path } = _
  rw [path_of_ofFileOrDefault h]
  unfold chosenPath Host.nonEmpty?
  cases (host.get? storeVariable).filter (!·.isEmpty) <;> simp

end Settings

/-- What the sample host's file says, whatever the variables of the process. -/
theorem Settings.ofFileOrDefault_sample (entries : List String) :
    ofFileOrDefault (hostWithSettings entries) none = .ok Tool.sampleSettings := by
  have hfile : ofFileOrDefault (hostWithSettings entries) none =
      ofFileOrDefault (hostWithSettings []) none := rfl
  rw [hfile]
  decide +kernel

namespace Tool

/-! ## Both tasks -/

/-- Both tasks work with these settings: if the settings are usable, `exec` opens their store and
`doctor` looks at its directory; if not, both refuse them for the same fault. -/
structure GoesBy (host : Host) (line : CommandLine) (settings : Settings) : Prop where
  opens : settings.Usable → ∃ store, openStore host line = .ok (settings, store) ∧
    store.root = settings.storePathOn host
  examines : settings.Usable →
    ∃ findings, (Doctor.examine host line.config line.store).findings = .ok findings ∧
      findings.storePath = settings.storePathOn host
  refuses : ∀ e, settings.check = .error e →
    openStore host line = .error (.unusable e) ∧
      (Doctor.examine host line.config line.store).findings = .error (.unusable e)

theorem goesBy_of_loaded {host : Host} {line : CommandLine} {loaded : Settings}
    (h : Settings.load host line.config = .ok loaded) :
    GoesBy host line (loaded.withStore line.store) where
  opens husable := by
    have hsettings := Settings.inForce_eq_ok_iff.2 ⟨loaded, h, rfl, husable⟩
    obtain ⟨engine, hengine⟩ := husable.engine
    let store : Store := { root := (loaded.withStore line.store).storePathOn host, engine }
    have hstore : (loaded.withStore line.store).openStore host = .ok store :=
      Settings.openStore_eq_ok_iff.2 ⟨rfl, hengine⟩
    exact ⟨store, openStore_eq_ok_iff.2 ⟨hsettings, hstore⟩, rfl⟩
  examines husable := by
    have hsettings := Settings.inForce_eq_ok_iff.2 ⟨loaded, h, rfl, husable⟩
    unfold Doctor.examine
    rw [hsettings]
    exact ⟨_, rfl, rfl⟩
  refuses e hcheck := by
    have hsettings := Settings.inForce_of_unusable h hcheck
    unfold openStore Doctor.examine
    rw [hsettings]
    exact ⟨rfl, rfl⟩

/-- **The directory of the store comes from the first of its sources that gives one.** -/
theorem store_path_precedence {host : Host} {args : List String} {line : CommandLine}
    {file : Settings} (hread : CommandLine.read args = .ok line)
    (hvariable : Settings.storeVariable ∉ host.captured.skipped)
    (hfile : Settings.ofFileOrDefault host line.config = .ok file) :
    let given := host.get? Settings.storeVariable
    let written := Settings.writtenPath? host line.config
    ∃ understood, commandLine host args = .ok understood ∧
      (line.task = .doctor → run host args = doctor host understood) ∧
      (∀ task, line.task = .exec task → run host args = exec host understood task) ∧
      ((line.store = none → given ≠ some "") →
        GoesBy host understood { file with path := Settings.chosenPath line.store given written }) ∧
      (line.store = none → given = some "" → GoesBy host understood { file with path := "" }) := by
  intro given written
  let understood : CommandLine := { line with store := line.store.or given }
  have hcommand : commandLine host args = .ok understood := by
    unfold commandLine
    rw [hread]
    change (if _ then _ else _) = _
    rw [if_neg (by simp [hvariable])]
    rfl
  have hload : Settings.load host understood.config =
      .ok { file with path := Settings.chosenPath none given written } :=
    Settings.load_of_ofFileOrDefault hfile
  have hgoes : GoesBy host understood
      { file with
        path := Option.getD (line.store.or given) (Settings.chosenPath none given written) } :=
    goesBy_of_loaded hload
  refine ⟨understood, hcommand, run_of_doctor hcommand, fun _ => run_of_exec hcommand, ?_, ?_⟩
  · intro hgiven
    rwa [Settings.chosenPath_of_option written hgiven] at hgoes
  · intro hoption hgiven
    have hpath : Option.getD (line.store.or given) (Settings.chosenPath none given written) = "" := by
      rw [hoption, hgiven]
      rfl
    rwa [hpath] at hgoes

theorem store_path_precedence_each_source :
    let overridden := hostWithSettings ["SHADOW_EXEC_STORE="]
    let given := hostWithSettings ["SHADOW_EXEC_STORE=v"]
    let unset := hostWithSettings []
    (∃ line, commandLine overridden ["--store=o", "doctor"] = .ok line ∧
      GoesBy overridden line { sampleSettings with path := "o" }) ∧
    (∃ line, commandLine given ["doctor"] = .ok line ∧
      GoesBy given line { sampleSettings with path := "v" }) ∧
    ∃ line, commandLine unset ["doctor"] = .ok line ∧ GoesBy unset line sampleSettings := by
  intro overridden given unset
  have hoption : CommandLine.read ["--store=o", "doctor"] =
      .ok { store := some "o", task := .doctor } := by
    decide +kernel
  have hdoctor : CommandLine.read ["doctor"] = .ok { task := .doctor } := by decide +kernel
  have hgiven : given.get? Settings.storeVariable = some "v" := by decide +kernel
  have hunset : unset.get? Settings.storeVariable = none := by decide +kernel
  have hwritten : Settings.writtenPath? unset none = some "s" := by decide +kernel
  refine ⟨?_, ?_, ?_⟩
  · have hutf8 : Settings.storeVariable ∉ overridden.captured.skipped := by decide +kernel
    obtain ⟨line, hline, -, -, hgoes, -⟩ :=
      store_path_precedence hoption hutf8 (Settings.ofFileOrDefault_sample _)
    exact ⟨line, hline, hgoes nofun⟩
  · have hutf8 : Settings.storeVariable ∉ given.captured.skipped := by decide +kernel
    obtain ⟨line, hline, -, -, hgoes, -⟩ :=
      store_path_precedence hdoctor hutf8 (Settings.ofFileOrDefault_sample _)
    rw [hgiven] at hgoes
    exact ⟨line, hline, hgoes (by simp)⟩
  · have hutf8 : Settings.storeVariable ∉ unset.captured.skipped := by decide +kernel
    obtain ⟨line, hline, -, -, hgoes, -⟩ :=
      store_path_precedence hdoctor hutf8 (Settings.ofFileOrDefault_sample _)
    rw [hunset, hwritten] at hgoes
    exact ⟨line, hline, hgoes nofun⟩

/-- An empty variable is not the same as none: both tasks refuse the empty directory, though the
file writes another, with which they work where the variable is not set. -/
theorem store_path_empty_variable :
    let unset := hostWithSettings []
    let empty := hostWithSettings ["SHADOW_EXEC_STORE="]
    let execution := ["exec", "--strict", "app", "--", "env"]
    Settings.writtenPath? empty none = some "s" ∧
    (run unset ["doctor"]).ending = .exited 0 ∧ (run empty ["doctor"]).ending = .exited 1 ∧
    (∃ line task, Executes unset execution line task sampleSettings
      { root := "/s", engine := .file }) ∧
    run empty execution =
      complain 125 "Configuration validation failed: Store path cannot be empty" := by
  intro unset empty execution
  have hexecutes : Executes unset execution { task := .exec (strictTask none) } (strictTask none)
      sampleSettings { root := "/s", engine := .file } :=
    executes_sample (by decide +kernel) (by decide +kernel) (by decide +kernel)
  exact ⟨by decide +kernel, by decide +kernel, by decide +kernel, ⟨_, _, hexecutes⟩,
    by decide +kernel⟩

end Tool

end EnvInject
