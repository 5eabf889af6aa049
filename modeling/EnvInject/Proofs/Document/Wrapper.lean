import EnvInject.Proofs.Document.Content
import Mathlib

/-!
# The wrapper of decrypted documents

A decrypted document may hold its secrets in a wrapper, a mapping under `data`, with metadata before
or after it. It gives what the mapping gives as a document of its own that is read as it is written.
The mapping is taken out once: keys inside it that are named like the wrapper or the metadata are keys
like any other.

* `Beside`, `Wraps` : the wrapper with its metadata, and the documents that wrap a mapping;
* `JsonSecrets.unwrap_of_beside`, `YamlSecrets.unwrap_of_beside` : the wrapper is taken off;
* `wrapped_reads_as_plain` : a wrapped mapping gives the entries, or the fault, of the plain one.

Texts enter as the values read from them; a reader's limit on nesting counts the wrapper as well.
-/

namespace EnvInject.Document

/-- The wrapper stands alone, or with metadata before or after it. -/
inductive Beside {κ υ : Type} (key : κ) (wrapper : κ × υ) : List (κ × υ) → Prop where
  | alone : Beside key wrapper [wrapper]
  | before (metadata : υ) : Beside key wrapper [(key, metadata), wrapper]
  | after (metadata : υ) : Beside key wrapper [wrapper, (key, metadata)]

/-- The first document holds the mapping of the second one in its wrapper. -/
inductive Wraps : Content → Content → Prop where
  | json {top mapping : List (String × Json)} (h : Beside "sops" ("data", .object mapping) top) :
    Wraps (.json (.object top)) (.json (.object mapping))
  | yaml {top mapping : List (Yaml.Value × Yaml.Value)}
    (h : Beside (.string "sops") (.string "data", .mapping mapping) top) :
    Wraps (.yaml (.mapping top)) (.yaml (.mapping mapping))

theorem JsonSecrets.unwrap_of_beside {top mapping : List (String × Json)}
    (h : Beside "sops" ("data", .object mapping) top) : unwrap top = .ok mapping := by
  have hown : top.filter (·.1 != "sops") = [("data", .object mapping)] := by
    cases h <;> simp
  rw [unwrap, hown]
  rfl

theorem YamlSecrets.unwrap_of_beside {top mapping : List (Yaml.Value × Yaml.Value)}
    (h : Beside (.string "sops") (.string "data", .mapping mapping) top) :
    unwrap top = .ok mapping := by
  have hown : removeKey "sops" top = [(.string "data", .mapping mapping)] := by
    cases h <;> simp [removeKey, hasKey]
  rw [unwrap, hown]
  rfl

theorem Content.entries_of_wraps {wrapped plain : Content} (h : Wraps wrapped plain)
    (mode : KeyMode) : wrapped.entries .sops mode = plain.entries .file mode := by
  cases h with
  | json h =>
    unfold entries JsonSecrets.ofValue
    dsimp only
    rw [JsonSecrets.unwrap_of_beside h]
  | yaml h =>
    unfold entries YamlSecrets.ofValue
    dsimp only
    rw [YamlSecrets.unwrap_of_beside h]

/-- **A wrapped mapping reads as the plain one**, whether as a value or from texts that have the two
values. -/
theorem wrapped_reads_as_plain {wrapped plain : Content} (h : Wraps wrapped plain)
    (mode : KeyMode) :
    wrapped.entries .sops mode = plain.entries .file mode ∧
    ∀ format text text', Content.read? format text = some wrapped →
      Content.read? format text' = some plain →
        textEntries .sops mode text format = textEntries .file mode text' format := by
  have hentries := Content.entries_of_wraps h mode
  refine ⟨hentries, ?_⟩
  intro format text text' hwrapped hplain
  rw [Content.textEntries_of_read? hwrapped, Content.textEntries_of_read? hplain, hentries]

/-- A mapping with keys that are named like the wrapper and the metadata. -/
def innerText : String := "\x7b\"data\":\x7b\"a\":\"one\"\x7d,\"sops\":\"two\"\x7d"

def innerJson : List (String × Json) :=
  [("data", .object [("a", .string "one")]), ("sops", .string "two")]

/-- That mapping in a wrapper, behind metadata. -/
def outerText : String :=
  "\x7b\"sops\":\x7b\"mac\":\"x\"\x7d,\"data\":" ++ innerText ++ "\x7d"

theorem read?_innerText :
    Content.read? .json innerText = some (.json (.object innerJson)) :=
  Content.read?_json (by cbv)

theorem read?_outerText :
    Content.read? .json outerText = some (.json (.object
      [("data", .object innerJson), ("sops", .object [("mac", .string "x")])])) :=
  Content.read?_json (by cbv)

theorem wrapped_reads_as_plain_same_keys :
    textEntries .sops .paths outerText .json = .ok [("data/a", "one"), ("sops", "two")] ∧
    textEntries .sops .verbatim outerText .json =
      .error (.value .json "data" "\x7b\"a\":\"one\"\x7d") ∧
    (Content.yaml (.mapping [(.string "sops", .null), (.string "data",
      .mapping [(.string "sops", .bool true), (.string "data", .string "one")])])).entries
        .sops .paths = .ok [("sops", "true"), ("data", "one")] := by
  have hjson : Wraps
      (.json (.object [("data", .object innerJson), ("sops", .object [("mac", .string "x")])]))
      (.json (.object innerJson)) := .json (.after _)
  refine ⟨?_, ?_, ?_⟩
  · rw [(wrapped_reads_as_plain hjson .paths).2 _ _ _ read?_outerText read?_innerText,
      Content.textEntries_of_read? read?_innerText]
    rfl
  · rw [(wrapped_reads_as_plain hjson .verbatim).2 _ _ _ read?_outerText read?_innerText,
      Content.textEntries_of_read? read?_innerText]
    rfl
  · rw [(wrapped_reads_as_plain (.yaml (.before .null)) .paths).1]
    rfl

end EnvInject.Document
