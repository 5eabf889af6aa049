import EnvInject.Decryption
import EnvInject.Proofs.Result

/-!
# The content of documents

JSON and YAML documents as one type, apart from their text, and the secrets that come of a content.

* `Content` : the value of a document, in the format it was read from;
* `Content.secrets` : the secrets of a service whose document has that content;
* `Store.Holds` : on a host the document of a service has a content, whatever the engine;
* `source_of_holds` : fetching a service gives the secrets of the content that is held;
* `source_eq_ok` : what was read when a service could be fetched.
-/

namespace EnvInject

namespace Document

open Secret (Entry)

/-- The value of a document, in the format it was read from. -/
inductive Content where
  | json (value : Json)
  | yaml (value : Yaml.Value)

namespace Content

def format : Content → Format
  | json _ => .json
  | yaml _ => .yaml

def shown : Content → String
  | json value => value.text
  | yaml value => value.text

/-- The text of a scalar; what is no scalar has none. -/
def scalarText : Content → String
  | json (.string s) => s
  | json (.number n) => n.text Json.layout
  | json (.bool b) => Json.boolText b
  | json _ => ""
  | yaml value => (YamlSecrets.scalarText? value).getD ""

/-- The content of a text; ENV documents have entries and no value. -/
def read? : Format → String → Option Content
  | .env, _ => none
  | .json, text => (Json.read? text).map json
  | .yaml, text => (Yaml.Value.read? text).map yaml

theorem read?_json {text : String} {value : Json} (h : Json.read? text = some value) :
    read? .json text = some (.json value) := by
  rw [read?, h, Option.map_some]

def entries (engine : Engine) (mode : KeyMode) : Content → Except Fault (List Entry)
  | json value => JsonSecrets.ofValue engine mode value
  | yaml value => YamlSecrets.ofValue engine mode value

def secrets (engine : Engine) (mode : KeyMode) (service : String) (content : Content) :
    Except StoreError SecretSet := do
  let entries ← (content.entries engine mode).mapError fun fault => .malformed service fault.message
  Secret.collect service mode entries

theorem secrets_of_entries {engine : Engine} {mode : KeyMode} {content : Content}
    {entries : List Entry} (h : content.entries engine mode = .ok entries) (service : String) :
    content.secrets engine mode service = Secret.collect service mode entries := by
  rw [secrets, h]
  rfl

theorem secrets_of_fault {engine : Engine} {mode : KeyMode} {content : Content} {fault : Fault}
    (h : content.entries engine mode = .error fault) (service : String) :
    content.secrets engine mode service = .error (.malformed service fault.message) := by
  rw [secrets, h]
  rfl

theorem textEntries_of_read? {format : Format} {text : String} {content : Content}
    (h : read? format text = some content) (engine : Engine) (mode : KeyMode) :
    textEntries engine mode text format = content.entries engine mode := by
  cases format with
  | env => cases h
  | json =>
    obtain ⟨value, hvalue, rfl⟩ := Option.map_eq_some_iff.1 h
    rw [textEntries, JsonSecrets.entries, hvalue, entries]
  | yaml =>
    obtain ⟨value, hvalue, rfl⟩ := Option.map_eq_some_iff.1 h
    rw [textEntries, YamlSecrets.entries, hvalue, entries]

theorem textEntries_of_unread {format : Format} {text : String} (henv : format ≠ .env)
    (h : read? format text = none) (engine : Engine) (mode : KeyMode) :
    textEntries engine mode text format = .error (.invalid format none) := by
  cases format with
  | env => exact absurd rfl henv
  | json => rw [textEntries, JsonSecrets.entries, Option.map_eq_none_iff.1 h]
  | yaml => rw [textEntries, YamlSecrets.entries, Option.map_eq_none_iff.1 h]

end Content

end Document

open Document

/-- On this host the store finds and reads the document of a service, and it has this content. -/
def Store.Holds (store : Store) (host : Host) (service : String) (content : Content) : Prop :=
  ∃ path bytes text, store.locate host.tree service = .ok path ∧
    store.reader host service path = .ok bytes ∧ Utf8.decode? bytes = some text ∧
    Content.read? (.ofPath path) text = some content

theorem Store.source_of_holds {store : Store} {host : Host} {service : String} {content : Content}
    (h : store.Holds host service content) (mode : KeyMode) :
    store.source host service mode = content.secrets store.engine mode service := by
  obtain ⟨path, bytes, text, hpath, hbytes, htext, hcontent⟩ := h
  have hentries : Document.entries store.engine mode (.ofPath path) bytes =
      content.entries store.engine mode := by
    rw [Document.entries, htext]
    exact Content.textEntries_of_read? hcontent _ _
  unfold Store.source Store.fetchWith Content.secrets
  rw [hpath, ← hentries]
  change (store.reader host service path >>= _) = _
  rw [hbytes]
  rfl

/-- What was read when a service could be fetched. -/
theorem Store.source_eq_ok {store : Store} {host : Host} {service : String} {mode : KeyMode}
    {set : SecretSet} (h : store.source host service mode = .ok set) :
    ∃ path bytes entries, store.locate host.tree service = .ok path ∧
      store.reader host service path = .ok bytes ∧
      Document.entries store.engine mode (.ofPath path) bytes = .ok entries ∧
      Secret.collect service mode entries = .ok set := by
  unfold Store.source Store.fetchWith at h
  obtain ⟨path, hpath, h⟩ := bind_eq_ok.1 h
  obtain ⟨bytes, hbytes, h⟩ := bind_eq_ok.1 h
  obtain ⟨entries, hentries, hcollect⟩ := bind_eq_ok.1 h
  exact ⟨path, bytes, entries, hpath, hbytes, mapError_eq_ok.1 hentries, hcollect⟩

/-! ## A store for closed instances -/

def sampleStore : Store where
  root := "/store"
  engine := .file

/-- A host where the sample store has a document for the service `app` and nothing else. -/
def sampleHost (text : String) : Host where
  tree := ({} : FileTree).write "/store/app.json" (Utf8.encode text)

theorem sampleStore_holds {text : String} {value : Json}
    (hdecode : Utf8.decode? (Utf8.encode text) = some text) (hread : Json.read? text = some value) :
    sampleStore.Holds (sampleHost text) "app" (.json value) := by
  exact ⟨"/store/app.json", Utf8.encode text, text, rfl, rfl, hdecode, Content.read?_json hread⟩

end EnvInject
