import EnvInject.Proofs.Result
import EnvInject.Settings.Load

/-!
# The settings in force

Settings are in force once they were loaded, given the directory of the store that the command line
names, and checked.

* `Usable`, `check_eq_ok_iff` : what the check asks for;
* `engine?_eq_ok_iff`, `openStore_eq_ok_iff` : the engine that settings name, and the store they open;
* `inForce_eq_ok_iff` : which settings are in force.
-/

namespace EnvInject

theorem Engine.ofText?_eq_some_iff {s : String} {engine : Engine} :
    Engine.ofText? s = some engine ↔ s = engine.text := by
  unfold Engine.ofText?
  split
  · rename_i hfile
    cases engine <;> simp [hfile, Engine.text]
  · rename_i hfile
    split
    · rename_i hsops
      cases engine <;> simp [hsops, Engine.text]
    · rename_i hsops
      cases engine <;> simp [hfile, hsops, Engine.text]

theorem Engine.text_injective {a b : Engine} (h : a.text = b.text) : a = b :=
  Option.some.inj ((ofText?_eq_some_iff.2 rfl).symm.trans (ofText?_eq_some_iff.2 h))

namespace Settings

structure Usable (s : Settings) : Prop where
  path : s.path ≠ ""
  engine : ∃ engine : Engine, s.engine = engine.text
  placeholder : s.placeholder ≠ ""

section Checks
variable {s : Settings}

theorem engine?_eq_ok_iff {engine : Engine} : s.engine? = .ok engine ↔ s.engine = engine.text := by
  rw [← Engine.ofText?_eq_some_iff, engine?]
  cases Engine.ofText? s.engine <;> simp

/-- The path is looked at first. -/
theorem check_of_emptyPath (h : s.path = "") : s.check = .error .emptyPath := by
  unfold check
  rw [h]
  rfl

theorem check_eq_ok_iff : s.check = .ok () ↔ s.Usable := by
  by_cases hpath : s.path = ""
  · rw [check_of_emptyPath hpath]
    exact ⟨nofun, fun h => absurd hpath h.path⟩
  unfold check
  rw [if_neg (fun h => hpath (String.isEmpty_iff.1 h)), bind_eq_ok]
  constructor
  · rintro ⟨engine, hengine, h⟩
    refine ⟨hpath, ⟨engine, engine?_eq_ok_iff.1 hengine⟩, fun hplaceholder => ?_⟩
    rw [if_pos (String.isEmpty_iff.2 hplaceholder)] at h
    cases h
  · rintro ⟨-, ⟨engine, hengine⟩, hplaceholder⟩
    refine ⟨engine, engine?_eq_ok_iff.2 hengine, ?_⟩
    rw [if_neg (fun h => hplaceholder (String.isEmpty_iff.1 h))]
    rfl

theorem openStore_eq_ok_iff {host : Host} {store : Store} :
    s.openStore host = .ok store ↔
      store.root = s.storePathOn host ∧ s.engine = store.engine.text := by
  unfold openStore
  rw [bind_eq_ok]
  constructor
  · rintro ⟨engine, hengine, h⟩
    cases h
    exact ⟨rfl, engine?_eq_ok_iff.1 hengine⟩
  · rintro ⟨hroot, hengine⟩
    obtain ⟨root, engine⟩ := store
    obtain rfl : root = s.storePathOn host := hroot
    exact ⟨engine, engine?_eq_ok_iff.2 hengine, rfl⟩

end Checks

section Loading
variable {host : Host} {file store : Option String}

/-- The settings with the directory of the store that the command line gives, if it gives one. -/
def withStore (s : Settings) (store : Option String) : Settings :=
  { s with path := store.getD s.path }

theorem inForce_eq_ok_iff {settings : Settings} :
    inForce host file store = .ok settings ↔
      ∃ loaded, load host file = .ok loaded ∧ settings = loaded.withStore store ∧
        settings.Usable := by
  unfold inForce
  rw [bind_eq_ok]
  constructor
  · rintro ⟨loaded, hloaded, h⟩
    obtain ⟨_, hcheck, h⟩ := bind_eq_ok.1 h
    cases h
    exact ⟨loaded, hloaded, rfl, check_eq_ok_iff.1 (mapError_eq_ok.1 hcheck)⟩
  · rintro ⟨loaded, hloaded, rfl, husable⟩
    exact ⟨loaded, hloaded,
      bind_eq_ok.2 ⟨(), mapError_eq_ok.2 (check_eq_ok_iff.2 husable), rfl⟩⟩

/-- Settings that were loaded and do not pass the check are refused for their fault. -/
theorem inForce_of_unusable {loaded : Settings} {e : SettingsError}
    (hloaded : load host file = .ok loaded) (hcheck : (loaded.withStore store).check = .error e) :
    inForce host file store = .error (.unusable e) := by
  have hinForce : inForce host file store =
      ((loaded.withStore store).check.mapError .unusable).map fun _ => loaded.withStore store := by
    unfold inForce
    rw [hloaded]
    rfl
  rw [hinForce, hcheck]
  rfl

end Loading

end Settings

/-! ## A host for closed instances -/

/-- A host whose file of settings names the store, with one document in it, and whose process has
these variables. -/
def hostWithSettings (entries : List String) : Host where
  tree := (({} : FileTree).write "shadow-exec.yaml"
    (Utf8.encode "store: \x7bpath: s\x7d\nstrict_value: FILL\n")).write
      "s/app.env" (Utf8.encode "TOKEN=one\n")
  captured := Environment.capture (entries.map Utf8.encode)

end EnvInject
