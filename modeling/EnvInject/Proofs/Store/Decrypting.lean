import EnvInject.Decryption
import EnvInject.Proofs.Result
import EnvInject.Proofs.Secret.Collecting
import Mathlib

/-!
# Fetches that come to decrypt

A fetch fails over decryption just where its document was found and the decrypting command did not
give it in the clear. That there is no such command is one reason for it. The text of the error does
not tell the reasons apart, since a command may complain in any words.

* `Decryption.Installed`, `Decryption.decrypt_eq_notInstalled_iff` : the command is there, or is
  what a decryption fails for;
* `Store.source_eq_undecryptable_iff` : the fetches that fail over decryption;
* `Store.FailsUninstalled`, `Store.Complains` : they fail for want of the command, or over what it
  complained of;
* `Store.source_says_uninstalled_iff` : either may be behind an error that says there is no command.
-/

namespace EnvInject

namespace Decryption

variable {host : Host} {path : String} {cause : Command.SearchError}

/-- The search path leads to a decrypting command. -/
def Installed (host : Host) : Prop := ∃ program, Command.find host command = .ok program

theorem decrypt_eq_notInstalled_iff :
    decrypt host path = .error (.notInstalled cause) ↔
      Command.find host command = .error cause := by
  unfold decrypt
  rw [bind_eq_error]
  constructor
  · rintro (hsearch | ⟨program, -, hrun⟩)
    · obtain ⟨_, hmissing, h⟩ := mapError_eq_error.1 hsearch
      cases h
      exact hmissing
    -- what comes after the search has faults of its own
    rcases bind_eq_error.1 hrun with hstart | ⟨o, -, hended⟩
    · obtain ⟨_, -, h⟩ := mapError_eq_error.1 hstart
      cases h
    · split at hended <;> cases hended
  · intro hmissing
    exact .inl (mapError_eq_error.2 ⟨cause, hmissing, rfl⟩)

/-! ## The words of a fault -/

theorem Fault.message_notInstalled_inj {other : Command.SearchError} :
    (notInstalled cause).message = (notInstalled other).message ↔ cause = other := by
  refine ⟨fun h => ?_, fun h => h ▸ rfl⟩
  cases cause <;> cases other
  · rfl
  · exact absurd h (by decide +kernel)
  · exact absurd h (by decide +kernel)
  · rfl

/-- The words for a command that is not there are not those for one that was not started. -/
theorem Fault.message_notStarted_ne (path : String) (refusal : SystemError)
    (cause : Command.SearchError) :
    (notStarted path refusal).message ≠ (notInstalled cause).message := by
  have hnotStarted : (notStarted path refusal).message.toList.head? = some 'f' := by
    have hfront : "failed to execute SOPS on '".toList.head? = some 'f' := by decide
    unfold message
    simp only [String.toList_append, List.head?_append, toString, hfront, Option.some_or]
  have hnotInstalled : (notInstalled cause).message.toList.head? = some 'S' := by
    have hfront : "SOPS is not installed or not in PATH: ".toList.head? = some 'S' := by decide
    unfold message
    simp only [String.toList_append, List.head?_append, toString, hfront, Option.some_or]
  intro h
  rw [h, hnotInstalled] at hnotStarted
  cases hnotStarted

end Decryption

namespace Store

variable {store : Store} {host : Host} {service path text : String} {mode : KeyMode}

/-! ## Where a fetch fails -/

theorem locate_ne_undecryptable (tree : FileTree) (named : String) :
    store.locate tree service ≠ .error (.undecryptable named text) := by
  unfold locate
  split <;> nofun

theorem collect_ne_undecryptable (entries : List Secret.Entry) (named : String) :
    Secret.collect service mode entries ≠ .error (.undecryptable named text) := by
  cases mode with
  | verbatim => nofun
  | paths =>
    intro h
    obtain ⟨_, _, _, _, -, -, hbreaks⟩ := Secret.collect_paths_eq_error h
    cases hbreaks

theorem reader_eq_undecryptable_iff {named : String} :
    store.reader host service path = .error (.undecryptable named text) ↔
      named = service ∧ store.engine = .sops ∧
        ∃ fault, Decryption.decrypt host path = .error fault ∧ fault.message = text := by
  unfold reader
  cases store.engine with
  | file =>
    refine ⟨fun h => ?_, nofun⟩
    obtain ⟨_, -, h⟩ := mapError_eq_error.1 h
    cases h
  | sops =>
    refine mapError_eq_error.trans ⟨?_, ?_⟩
    · rintro ⟨fault, hfault, h⟩
      cases h
      exact ⟨rfl, rfl, fault, hfault, rfl⟩
    · rintro ⟨rfl, -, fault, hfault, rfl⟩
      exact ⟨fault, hfault, rfl⟩

theorem source_eq_undecryptable_iff {named : String} :
    store.source host service mode = .error (.undecryptable named text) ↔
      named = service ∧ store.engine = .sops ∧
        ∃ path fault, store.locate host.tree service = .ok path ∧
          Decryption.decrypt host path = .error fault ∧ fault.message = text := by
  unfold source fetchWith
  rw [bind_eq_error]
  constructor
  · rintro (hlocate | ⟨path, hlocate, h⟩)
    · exact absurd hlocate (locate_ne_undecryptable _ _)
    rcases bind_eq_error.1 h with hread | ⟨bytes, -, h⟩
    · obtain ⟨rfl, hengine, fault, hfault, rfl⟩ := reader_eq_undecryptable_iff.1 hread
      exact ⟨rfl, hengine, path, fault, hlocate, hfault, rfl⟩
    rcases bind_eq_error.1 h with hentries | ⟨entries, -, hcollect⟩
    · obtain ⟨_, -, h⟩ := mapError_eq_error.1 hentries
      cases h
    · exact absurd hcollect (collect_ne_undecryptable _ _)
  · rintro ⟨rfl, hengine, path, fault, hlocate, hfault, rfl⟩
    refine .inr ⟨path, hlocate, bind_eq_error.2 (.inl ?_)⟩
    exact reader_eq_undecryptable_iff.2 ⟨rfl, hengine, fault, hfault, rfl⟩

/-! ## Why it fails -/

/-- The fetch finds a document that is to be decrypted, and no command to do it. -/
structure FailsUninstalled (store : Store) (host : Host) (service : String)
    (cause : Command.SearchError) : Prop where
  engine : store.engine = .sops
  fault : ∃ path, store.locate host.tree service = .ok path ∧
    Decryption.decrypt host path = .error (.notInstalled cause)

/-- The fetch finds a document that is to be decrypted, and the command that was started on it
failed with words of its own. -/
structure Complains (store : Store) (host : Host) (service text : String) : Prop where
  engine : store.engine = .sops
  fault : ∃ path complaint, store.locate host.tree service = .ok path ∧
    Decryption.decrypt host path = .error (.failed complaint) ∧
    (Decryption.Fault.failed complaint).message = text

/-- An error says that the command is not there just if it is not, or if it says so itself. -/
theorem source_says_uninstalled_iff {cause : Command.SearchError} :
    store.source host service mode =
        .error (.undecryptable service (Decryption.Fault.notInstalled cause).message) ↔
      store.FailsUninstalled host service cause ∨
        store.Complains host service (Decryption.Fault.notInstalled cause).message := by
  rw [source_eq_undecryptable_iff]
  constructor
  · rintro ⟨-, hengine, path, fault, hlocate, hfault, htext⟩
    cases fault with
    | notInstalled other =>
      obtain rfl := Decryption.Fault.message_notInstalled_inj.1 htext
      exact .inl ⟨hengine, path, hlocate, hfault⟩
    | notStarted document refusal =>
      exact absurd htext (Decryption.Fault.message_notStarted_ne document refusal cause)
    | failed complaint => exact .inr ⟨hengine, path, complaint, hlocate, hfault, htext⟩
  · rintro (⟨hengine, path, hlocate, hfault⟩ | ⟨hengine, path, complaint, hlocate, hfault, htext⟩)
    · exact ⟨rfl, hengine, path, _, hlocate, hfault, rfl⟩
    · exact ⟨rfl, hengine, path, _, hlocate, hfault, htext⟩

theorem not_failsUninstalled {cause : Command.SearchError} (h : Decryption.Installed host) :
    ¬ store.FailsUninstalled host service cause := by
  rintro ⟨-, path, -, hfault⟩
  obtain ⟨program, hfound⟩ := h
  cases hfound.symm.trans (Decryption.decrypt_eq_notInstalled_iff.1 hfault)

end Store

end EnvInject
