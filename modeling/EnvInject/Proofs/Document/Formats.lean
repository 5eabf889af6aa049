import EnvInject.Proofs.Document.Metadata
import Mathlib

/-!
# JSON and YAML documents with one tree

A tree that both formats can hold gives the same entries from either, or is rejected by both: at the
same path, or because its wrapper does not stand alone. Metadata is left out, since taking it out of
a YAML document may change the order of the pairs.

* `Shared`, `Shared.json`, `Shared.yaml` : the trees, and their values in the two formats;
* `SameOutcome` : entries or faults that agree, apart from how a rejected value is shown;
* `Shared.leaves_agree`, `Shared.unwrap_agree` : the two formats in step;
* `formats_agree` : the outcomes of two documents with one tree.
-/

namespace EnvInject.Document

open Secret (Entry)

/-- A tree that both formats can hold. -/
inductive Shared where
  | null
  | bool (b : Bool)
  | int (n : Int)
  | string (s : String)
  | sequence (items : List Shared)
  | mapping (pairs : List (String × Shared))

namespace Shared

mutual

def json : Shared → Json
  | null => .null
  | bool b => .bool b
  | int n => .number (.int n)
  | string s => .string s
  | sequence items => .array (jsonItems items)
  | mapping pairs => .object (jsonMembers pairs)

def jsonItems : List Shared → List Json
  | [] => []
  | item :: rest => json item :: jsonItems rest

def jsonMembers : List (String × Shared) → List (String × Json)
  | [] => []
  | (key, value) :: rest => (key, json value) :: jsonMembers rest

end

mutual

def yaml : Shared → Yaml.Value
  | null => .null
  | bool b => .bool b
  | int n => .number (.int n)
  | string s => .string s
  | sequence items => .sequence (yamlItems items)
  | mapping pairs => .mapping (yamlPairs pairs)

def yamlItems : List Shared → List Yaml.Value
  | [] => []
  | item :: rest => yaml item :: yamlItems rest

def yamlPairs : List (String × Shared) → List (Yaml.Value × Yaml.Value)
  | [] => []
  | (key, value) :: rest => (.string key, yaml value) :: yamlPairs rest

end

theorem jsonMembers_eq_map (pairs : List (String × Shared)) :
    jsonMembers pairs = pairs.map fun p => (p.1, p.2.json) := by
  induction pairs with
  | nil => rfl
  | cons p rest ih => rw [jsonMembers, ih, List.map_cons]

theorem yamlPairs_eq_map (pairs : List (String × Shared)) :
    yamlPairs pairs = pairs.map fun p => (.string p.1, p.2.yaml) := by
  induction pairs with
  | nil => rfl
  | cons p rest ih => rw [yamlPairs, ih, List.map_cons]

end Shared

/-! ## Outcomes that agree -/

/-- The outcomes of a JSON and of a YAML document that agree. A rejected value has the same path in
both, and each format shows it in its own way. -/
inductive SameOutcome : Except Fault (List Entry) → Except Fault (List Entry) → Prop where
  | entries (entries : List Entry) : SameOutcome (.ok entries) (.ok entries)
  | value (path found found' : String) :
    SameOutcome (.error (.value .json path found)) (.error (.value .yaml path found'))
  | wrapper : SameOutcome (.error .wrapperNotAlone) (.error .wrapperNotAlone)

theorem SameOutcome.append {here here' further further' : Except Fault (List Entry)}
    (hhere : SameOutcome here here') (hfurther : SameOutcome further further') :
    SameOutcome
      (do
        let xs ← here
        let ys ← further
        pure (xs ++ ys))
      (do
        let xs ← here'
        let ys ← further'
        pure (xs ++ ys)) := by
  cases hhere with
  | value path found found' => exact .value path found found'
  | wrapper => exact .wrapper
  | entries xs =>
    cases hfurther with
    | value path found found' => exact .value path found found'
    | wrapper => exact .wrapper
    | entries ys => exact .entries (xs ++ ys)

theorem SameOutcome.entries_iff {entries : List Entry} {outcome : Except Fault (List Entry)} :
    SameOutcome (.ok entries) outcome ↔ outcome = .ok entries := by
  constructor
  · intro h
    cases h
    rfl
  · rintro rfl
    exact .entries entries

theorem SameOutcome.value_iff {path found : String} {outcome : Except Fault (List Entry)} :
    SameOutcome (.error (.value .json path found)) outcome ↔
      ∃ found', outcome = .error (.value .yaml path found') := by
  constructor
  · intro h
    cases h with
    | value _ _ found' => exact ⟨found', rfl⟩
  · rintro ⟨found', rfl⟩
    exact .value path found found'

namespace Shared

mutual

theorem leaves_agree (mode : KeyMode) (path : String) : (tree : Shared) →
    SameOutcome (JsonSecrets.leaves mode path tree.json) (YamlSecrets.leaves mode path tree.yaml)
  | null => .value path _ _
  | bool b => .entries [(path, Json.boolText b)]
  | int n => .entries [(path, toString n)]
  | string s => .entries [(path, s)]
  | sequence items => .value path _ _
  | mapping pairs => by
    cases mode with
    | paths => exact pairs_agree .paths (path ++ "/") pairs
    | verbatim => exact .value path _ _

theorem pairs_agree (mode : KeyMode) (above : String) : (pairs : List (String × Shared)) →
    SameOutcome (JsonSecrets.membersLeaves mode above (jsonMembers pairs))
      (YamlSecrets.pairsLeaves mode above (yamlPairs pairs))
  | [] => .entries []
  | (key, value) :: rest => by
    rw [jsonMembers, yamlPairs, JsonSecrets.membersLeaves, YamlSecrets.pairsLeaves]
    -- a key that is a string reads as itself
    exact .append (leaves_agree mode (above ++ key) value) (pairs_agree mode above rest)

end

/-! ## Unwrapping -/

section Unwrapping
variable {pairs : List (String × Shared)}

theorem map_fst_jsonMembers (pairs : List (String × Shared)) :
    (jsonMembers pairs).map Prod.fst = pairs.map Prod.fst := by
  rw [jsonMembers_eq_map, List.map_map]
  rfl

theorem map_fst_yamlPairs (pairs : List (String × Shared)) :
    (yamlPairs pairs).map Prod.fst = (pairs.map Prod.fst).map .string := by
  rw [yamlPairs_eq_map, List.map_map, List.map_map]
  rfl

theorem lookup_jsonMembers (key : String) (pairs : List (String × Shared)) :
    (jsonMembers pairs).lookup key = (pairs.lookup key).map json := by
  rw [jsonMembers_eq_map]
  exact Pairs.lookup_map (fun _ => json) key pairs

theorem find?_yamlPairs (key : String) (pairs : List (String × Shared)) :
    (yamlPairs pairs).find? (YamlSecrets.hasKey key) =
      (pairs.lookup key).map fun value => (.string key, value.yaml) := by
  induction pairs with
  | nil => rfl
  | cons p rest ih =>
    obtain ⟨k, value⟩ := p
    rw [yamlPairs, Pairs.lookup_cons, List.find?_cons, ih]
    by_cases hkey : key = k
    · subst hkey
      simp [YamlSecrets.hasKey]
    · have hother : YamlSecrets.hasKey key (.string k, value.yaml) = false := by
        simpa [YamlSecrets.hasKey] using Ne.symm hkey
      rw [hother, if_neg hkey]

/-- Both formats find the secrets in the same pairs, or neither does. -/
theorem unwrap_agree (h : "sops" ∉ pairs.map Prod.fst) :
    (∃ own, JsonSecrets.unwrap (jsonMembers pairs) = .ok (jsonMembers own) ∧
      YamlSecrets.unwrap (yamlPairs pairs) = .ok (yamlPairs own)) ∨
    JsonSecrets.unwrap (jsonMembers pairs) = .error .wrapperNotAlone ∧
      YamlSecrets.unwrap (yamlPairs pairs) = .error .wrapperNotAlone := by
  have hlength : (jsonMembers pairs).length = pairs.length := by
    rw [jsonMembers_eq_map, List.length_map]
  have hlength' : (yamlPairs pairs).length = pairs.length := by
    rw [yamlPairs_eq_map, List.length_map]
  have hjson : "sops" ∉ (jsonMembers pairs).map Prod.fst := by
    rwa [map_fst_jsonMembers]
  have hyaml : Yaml.Value.string "sops" ∉ (yamlPairs pairs).map Prod.fst := by
    rw [map_fst_yamlPairs, List.mem_map]
    rintro ⟨key, hkey, hsops⟩
    cases hsops
    exact h hkey
  unfold JsonSecrets.unwrap YamlSecrets.unwrap
  dsimp only
  rw [JsonSecrets.filter_of_notMem hjson, YamlSecrets.removeKey_of_notMem hyaml,
    lookup_jsonMembers, find?_yamlPairs, hlength, hlength']
  cases pairs.lookup "data" with
  | none => exact .inl ⟨pairs, rfl, rfl⟩
  | some value =>
    cases value with
    | mapping inner =>
      by_cases halone : 1 < pairs.length
      · exact .inr ⟨if_pos halone, if_pos halone⟩
      · exact .inl ⟨inner, if_neg halone, if_neg halone⟩
    | _ => exact .inl ⟨pairs, rfl, rfl⟩

end Unwrapping

theorem ofValue_agree {engine : Engine} {pairs : List (String × Shared)}
    (h : engine = .sops → "sops" ∉ pairs.map Prod.fst) (mode : KeyMode) :
    SameOutcome (JsonSecrets.ofValue engine mode (mapping pairs).json)
      (YamlSecrets.ofValue engine mode (mapping pairs).yaml) := by
  cases engine with
  | file => exact pairs_agree mode "" pairs
  | sops =>
    rw [json, yaml, JsonSecrets.ofValue, YamlSecrets.ofValue]
    rcases unwrap_agree (h rfl) with ⟨own, hjson, hyaml⟩ | ⟨hjson, hyaml⟩
    · rw [hjson, hyaml]
      exact pairs_agree mode "" own
    · rw [hjson, hyaml]
      exact .wrapper

end Shared

/-- **One tree gives the same from either format**, as a value and from texts that hold it. -/
theorem formats_agree {engine : Engine} {pairs : List (String × Shared)}
    (h : engine = .sops → "sops" ∉ pairs.map Prod.fst) (mode : KeyMode) :
    SameOutcome (JsonSecrets.ofValue engine mode (Shared.mapping pairs).json)
      (YamlSecrets.ofValue engine mode (Shared.mapping pairs).yaml) ∧
    ∀ text text', Json.read? text = some (Shared.mapping pairs).json →
      Yaml.Value.read? text' = some (Shared.mapping pairs).yaml →
        SameOutcome (textEntries engine mode text .json) (textEntries engine mode text' .yaml) := by
  refine ⟨Shared.ofValue_agree h mode, ?_⟩
  intro text text' hjson hyaml
  have hcontent : Content.read? .yaml text' = some (.yaml (Shared.mapping pairs).yaml) := by
    rw [Content.read?, hyaml, Option.map_some]
  rw [Content.textEntries_of_read? (Content.read?_json hjson),
    Content.textEntries_of_read? hcontent]
  exact Shared.ofValue_agree h mode

def wrappedPairs : List (String × Shared) :=
  [("data", .mapping [("a", .int 1), ("b", .mapping [("c", .bool true)])])]

theorem formats_agree_wrapped_pairs :
    YamlSecrets.ofValue .sops .paths (Shared.mapping wrappedPairs).yaml =
      .ok [("a", "1"), ("b/c", "true")] ∧
    ∃ found, YamlSecrets.ofValue .sops .verbatim (Shared.mapping wrappedPairs).yaml =
      .error (.value .yaml "b" found) := by
  have hsops : Engine.sops = .sops → "sops" ∉ wrappedPairs.map Prod.fst := fun _ => by decide
  constructor
  · have hagree := (formats_agree hsops .paths).1
    have hentries : JsonSecrets.ofValue .sops .paths (Shared.mapping wrappedPairs).json =
        .ok [("a", "1"), ("b/c", "true")] := rfl
    rw [hentries] at hagree
    exact SameOutcome.entries_iff.1 hagree
  · have hagree := (formats_agree hsops .verbatim).1
    have hfault : JsonSecrets.ofValue .sops .verbatim (Shared.mapping wrappedPairs).json =
        .error (.value .json "b" "\x7b\"c\":true\x7d") := by cbv
    rw [hfault] at hagree
    exact SameOutcome.value_iff.1 hagree

def bothText : String := "\x7b\"data\":\x7b\"a\":1,\"b\":\x7b\"c\":true\x7d\x7d\x7d"

example : textEntries .sops .paths bothText .json = .ok [("a", "1"), ("b/c", "true")] ∧
    textEntries .sops .paths bothText .yaml = .ok [("a", "1"), ("b/c", "true")] := by
  decide +kernel

end EnvInject.Document
