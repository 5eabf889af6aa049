import EnvInject.Proofs.Document.Tree
import Mathlib

/-!
# What errors tell of secrets

Blanking takes the texts and numbers out of a document and leaves its structure: the keys, the
nesting and the kind of every value. Documents that are alike when blanked are looked through alike,
so that they fail alike, but for one thing: a value that is rejected is shown whole.

* `Json.blank`, `Yaml.Value.blank`, `Content.blank` : the values without texts and numbers;
* `Content.found_blank` : where looking for secrets stops does not depend on what was blanked;
* `failure?_collect` : which entries are refused, and why, does not depend on their values;
* `Content.rejected?` : the value at which a document is rejected;
* `source_fails_alike` : what the errors of two documents that are alike have in common;
* `source_shows_secret` : a rejected value shows the secrets inside it.
-/

namespace EnvInject

/-! ## Blanking -/

namespace Json

mutual

/-- The value with empty strings, and zero for every number. -/
def blank : Json → Json
  | null => null
  | bool b => bool b
  | number _ => number (.int 0)
  | string _ => string ""
  | array items => array (blankItems items)
  | object members => object (blankMembers members)

def blankItems : List Json → List Json
  | [] => []
  | item :: rest => blank item :: blankItems rest

/-- The members of an object, blanked; their keys stay. -/
def blankMembers : List (String × Json) → List (String × Json)
  | [] => []
  | (key, value) :: rest => (key, blank value) :: blankMembers rest

end

theorem blankMembers_eq_map (members : List (String × Json)) :
    blankMembers members = members.map fun m => (m.1, m.2.blank) := by
  induction members with
  | nil => rfl
  | cons m rest ih => rw [blankMembers, ih, List.map_cons]

end Json

namespace Yaml.Value

mutual

/-- The value with empty strings, and zero for every number. -/
def blank : Value → Value
  | null => null
  | bool b => bool b
  | number _ => number (.int 0)
  | string _ => string ""
  | sequence items => sequence (blankItems items)
  | mapping pairs => mapping (blankPairs pairs)
  | tagged tag value => tagged tag (blank value)

def blankItems : List Value → List Value
  | [] => []
  | item :: rest => blank item :: blankItems rest

def blankPairs : List (Value × Value) → List (Value × Value)
  | [] => []
  | (key, value) :: rest => (key, blank value) :: blankPairs rest

end

theorem blankPairs_eq_map (pairs : List (Value × Value)) :
    blankPairs pairs = pairs.map fun p => (p.1, p.2.blank) := by
  induction pairs with
  | nil => rfl
  | cons p rest ih => rw [blankPairs, ih, List.map_cons]

end Yaml.Value

namespace Document

def Content.blank : Content → Content
  | json value => json value.blank
  | yaml value => yaml value.blank

theorem Content.format_blank (content : Content) : content.blank.format = content.format := by
  cases content <;> rfl

namespace Tree

mutual

theorem ofJson_blank : (value : Json) → ofJson value.blank = (ofJson value).map Content.blank
  | .null => rfl
  | .bool _ => rfl
  | .number _ => rfl
  | .string _ => rfl
  | .array items => congrArg (closed _) (ofItems_blank items)
  | .object members => congrArg (keyed _) (ofMembers_blank members)

theorem ofMembers_blank : (members : List (String × Json)) →
    ofMembers (Json.blankMembers members) = mapChildren Content.blank (ofMembers members)
  | [] => rfl
  | (key, value) :: rest => by
    rw [Json.blankMembers, ofMembers, ofMembers, mapChildren, ofJson_blank value,
      ofMembers_blank rest]

theorem ofItems_blank : (items : List Json) →
    ofItems (Json.blankItems items) = mapInside Content.blank (ofItems items)
  | [] => rfl
  | item :: rest => by
    rw [Json.blankItems, ofItems, ofItems, mapInside, ofJson_blank item, ofItems_blank rest]

end

mutual

theorem ofYaml_blank :
    (value : Yaml.Value) → ofYaml value.blank = (ofYaml value).map Content.blank
  | .null => rfl
  | .bool _ => rfl
  | .number _ => rfl
  | .string _ => rfl
  | .sequence items => congrArg (closed _) (ofSequence_blank items)
  | .mapping pairs => congrArg (keyed _) (ofPairs_blank pairs)
  | .tagged _ value => congrArg (fun tree => closed _ [tree]) (ofYaml_blank value)

theorem ofPairs_blank : (pairs : List (Yaml.Value × Yaml.Value)) →
    ofPairs (Yaml.Value.blankPairs pairs) = mapChildren Content.blank (ofPairs pairs)
  | [] => rfl
  | (key, value) :: rest => by
    rw [Yaml.Value.blankPairs, ofPairs, ofPairs, mapChildren, ofYaml_blank value,
      ofPairs_blank rest]

theorem ofSequence_blank : (items : List Yaml.Value) →
    ofSequence (Yaml.Value.blankItems items) = mapInside Content.blank (ofSequence items)
  | [] => rfl
  | item :: rest => by
    rw [Yaml.Value.blankItems, ofSequence, ofSequence, mapInside, ofYaml_blank item,
      ofSequence_blank rest]

end

end Tree

/-! ## Unwrapping -/

theorem JsonSecrets.unwrap_blank (members : List (String × Json)) :
    unwrap (Json.blankMembers members) = (unwrap members).map Json.blankMembers := by
  have hown : (Json.blankMembers members).filter (·.1 != "sops") =
      Json.blankMembers (members.filter (·.1 != "sops")) := by
    rw [Json.blankMembers_eq_map, Json.blankMembers_eq_map, List.filter_map]
    rfl
  unfold unwrap
  dsimp only
  rw [hown]
  generalize members.filter (·.1 != "sops") = own
  have hlength : (Json.blankMembers own).length = own.length := by
    rw [Json.blankMembers_eq_map, List.length_map]
  have hdata : (Json.blankMembers own).lookup "data" = (own.lookup "data").map Json.blank := by
    rw [Json.blankMembers_eq_map]
    exact Pairs.lookup_map (fun _ => Json.blank) "data" own
  rw [hlength, hdata]
  cases own.lookup "data" with
  | none => rfl
  | some value =>
    cases value with
    | object inner =>
      change (if _ then _ else Except.ok (Json.blankMembers inner)) = _
      split <;> rfl
    | _ => rfl

theorem YamlSecrets.removeKey_map (key : String) (f : Yaml.Value → Yaml.Value)
    (pairs : List (Yaml.Value × Yaml.Value)) :
    removeKey key (pairs.map fun p => (p.1, f p.2)) =
      (removeKey key pairs).map fun p => (p.1, f p.2) := by
  -- whether a pair has the key does not depend on its value
  have hkey : (!hasKey key ·) ∘ (fun p : Yaml.Value × Yaml.Value => (p.1, f p.2)) =
      (!hasKey key ·) := rfl
  unfold removeKey
  dsimp only
  rw [List.takeWhile_map, List.dropWhile_map, hkey, ← List.map_drop, List.getLast?_map,
    ← List.map_dropLast, Option.toList_map, List.map_append, List.map_append]

theorem YamlSecrets.unwrap_blank (pairs : List (Yaml.Value × Yaml.Value)) :
    unwrap (Yaml.Value.blankPairs pairs) = (unwrap pairs).map Yaml.Value.blankPairs := by
  have hown : removeKey "sops" (Yaml.Value.blankPairs pairs) =
      Yaml.Value.blankPairs (removeKey "sops" pairs) := by
    rw [Yaml.Value.blankPairs_eq_map, Yaml.Value.blankPairs_eq_map]
    exact removeKey_map "sops" _ pairs
  unfold unwrap
  dsimp only
  rw [hown]
  generalize removeKey "sops" pairs = own
  have hlength : (Yaml.Value.blankPairs own).length = own.length := by
    rw [Yaml.Value.blankPairs_eq_map, List.length_map]
  have hdata : (Yaml.Value.blankPairs own).find? (hasKey "data") =
      (own.find? (hasKey "data")).map fun p => (p.1, p.2.blank) := by
    rw [Yaml.Value.blankPairs_eq_map, List.find?_map]
    rfl
  rw [hlength, hdata]
  cases own.find? (hasKey "data") with
  | none => rfl
  | some pair =>
    obtain ⟨key, value⟩ := pair
    cases value with
    | mapping inner =>
      change (if _ then _ else Except.ok (Yaml.Value.blankPairs inner)) = _
      split <;> rfl
    | _ => rfl

namespace Content

theorem top_blank (engine : Engine) (content : Content) :
    content.blank.top engine = (content.top engine).map (Tree.mapChildren blank) := by
  cases content with
  | json value =>
    cases value with
    | object members =>
      cases engine with
      | file => exact congrArg Except.ok (Tree.ofMembers_blank members)
      | sops =>
        change (JsonSecrets.unwrap (Json.blankMembers members)).map Tree.ofMembers =
          ((JsonSecrets.unwrap members).map Tree.ofMembers).map (Tree.mapChildren blank)
        rw [JsonSecrets.unwrap_blank]
        cases JsonSecrets.unwrap members with
        | error fault => rfl
        | ok own => exact congrArg Except.ok (Tree.ofMembers_blank own)
    | _ => rfl
  | yaml value =>
    cases value with
    | mapping pairs =>
      cases engine with
      | file => exact congrArg Except.ok (Tree.ofPairs_blank pairs)
      | sops =>
        change (YamlSecrets.unwrap (Yaml.Value.blankPairs pairs)).map Tree.ofPairs =
          ((YamlSecrets.unwrap pairs).map Tree.ofPairs).map (Tree.mapChildren blank)
        rw [YamlSecrets.unwrap_blank]
        cases YamlSecrets.unwrap pairs with
        | error fault => rfl
        | ok own => exact congrArg Except.ok (Tree.ofPairs_blank own)
    | _ => rfl

/-- Where the scalars are, or looking for them stops, does not depend on what was blanked. -/
theorem found_blank (engine : Engine) (mode : KeyMode) (content : Content) :
    content.blank.found engine mode = (content.found engine mode).map blank := by
  unfold found
  rw [top_blank]
  cases content.top engine with
  | error fault => rfl
  | ok children => exact Tree.childrenFound_map blank mode "" children

def rejected? (engine : Engine) (mode : KeyMode) (content : Content) : Option (String × Content) :=
  match content.found engine mode with
  | .error (.value path found) => some (path, found)
  | _ => none

end Content

end Document

/-! ## Failures -/

def failure? {ε α : Type} : Except ε α → Option ε
  | .ok _ => none
  | .error e => some e

namespace Secret

theorem failure?_collectPaths {entries entries' : List Entry} (service : String)
    (h : entries.map Prod.fst = entries'.map Prod.fst) (origins : List (String × String))
    (set set' : SecretSet) :
    failure? (collectPaths service origins set entries) =
      failure? (collectPaths service origins set' entries') := by
  induction entries generalizing entries' origins set set' with
  | nil =>
    cases entries' with
    | nil => rfl
    | cons entry' rest' => cases h
  | cons entry rest ih =>
    cases entries' with
    | nil => cases h
    | cons entry' rest' =>
      obtain ⟨path, value⟩ := entry
      obtain ⟨path', value'⟩ := entry'
      obtain ⟨rfl, hrest⟩ := List.cons.inj h
      simp only [collectPaths]
      split
      · rfl
      · split
        · split
          · exact ih hrest _ _ _
          · rfl
        · exact ih hrest _ _ _

/-- Which entries are refused does not depend on their values. -/
theorem failure?_collect {entries entries' : List Entry} (service : String) (mode : KeyMode)
    (h : entries.map Prod.fst = entries'.map Prod.fst) :
    failure? (collect service mode entries) = failure? (collect service mode entries') := by
  cases mode with
  | verbatim => rfl
  | paths => exact failure?_collectPaths service h [] .empty .empty

end Secret

namespace Document.Content

section Alike
variable {content content' : Content} {engine : Engine} {mode : KeyMode}

theorem entries_of_found_ok {scalars : List (String × Content)}
    (h : content.found engine mode = .ok scalars) :
    content.entries engine mode = .ok (scalars.map fun p => (p.1, p.2.scalarText)) := by
  rw [entries_eq_found, h]
  rfl

theorem entries_of_found_error {stop : Stop Content}
    (h : content.found engine mode = .error stop) :
    content.entries engine mode = .error stop.toFault := by
  rw [entries_eq_found, h]
  rfl

/-- A document is rejected where it is rejected when blanked. -/
theorem rejected?_blank (engine : Engine) (mode : KeyMode) (content : Content) :
    content.blank.rejected? engine mode =
      (content.rejected? engine mode).map fun p => (p.1, p.2.blank) := by
  unfold rejected?
  rw [found_blank]
  cases content.found engine mode with
  | ok scalars => rfl
  | error stop => cases stop <;> rfl

theorem rejected?_alike (h : content.blank = content'.blank) {path : String} {found : Content}
    (hsome : content.rejected? engine mode = some (path, found)) :
    ∃ found', content'.rejected? engine mode = some (path, found') ∧
      found'.blank = found.blank := by
  have hblank := rejected?_blank engine mode content'
  rw [← h, rejected?_blank, hsome] at hblank
  obtain ⟨⟨path', found'⟩, hsome', heq⟩ := Option.map_eq_some_iff.1 hblank.symm
  obtain ⟨rfl, hfound⟩ := Prod.mk.inj heq
  exact ⟨found', hsome', hfound⟩

/-- A document fails as it does when blanked, unless a value is rejected. -/
theorem failure?_blank (service : String) (hnone : content.rejected? engine mode = none) :
    failure? (content.blank.secrets engine mode service) =
      failure? (content.secrets engine mode service) := by
  have hblank := found_blank engine mode content
  unfold rejected? at hnone
  cases hfound : content.found engine mode with
  | ok scalars =>
    rw [hfound] at hblank
    rw [secrets_of_entries (entries_of_found_ok hfound),
      secrets_of_entries (entries_of_found_ok hblank)]
    refine Secret.failure?_collect service mode ?_
    rw [List.map_map, List.map_map, List.map_map]
    rfl
  | error stop =>
    rw [hfound] at hblank hnone
    cases stop with
    | value path found => cases hnone
    | fault fault =>
      rw [secrets_of_fault (entries_of_found_error hfound),
        secrets_of_fault (entries_of_found_error hblank)]
      rfl

theorem secrets_of_rejected {path : String} {found : Content}
    (h : content.rejected? engine mode = some (path, found)) (service : String) :
    content.secrets engine mode service =
      .error (.malformed service (Fault.value found.format path found.shown).message) := by
  unfold rejected? at h
  split at h
  · rename_i hfound
    cases h
    exact secrets_of_fault (entries_of_found_error hfound) service
  · cases h

end Alike

end Document.Content

open Document

/-- **Documents that are alike when blanked fail alike**, or are both rejected at one path, where
the errors differ in the text of the rejected value and in nothing else. -/
theorem Store.source_fails_alike {store : Store} {host host' : Host} {service : String}
    {content content' : Content} (hholds : store.Holds host service content)
    (hholds' : store.Holds host' service content') (halike : content.blank = content'.blank)
    (mode : KeyMode) :
    failure? (store.source host service mode) = failure? (store.source host' service mode) ∨
    ∃ path found found', content.rejected? store.engine mode = some (path, found) ∧
      content'.rejected? store.engine mode = some (path, found') ∧
      found.blank = found'.blank ∧ found.shown ≠ found'.shown ∧
      store.source host service mode =
        .error (.malformed service (Fault.value found.format path found.shown).message) ∧
      store.source host' service mode =
        .error (.malformed service (Fault.value found.format path found'.shown).message) := by
  rw [Store.source_of_holds hholds, Store.source_of_holds hholds']
  cases hrejected : content.rejected? store.engine mode with
  | none =>
    have hrejected' : content'.rejected? store.engine mode = none := by
      have hnone := Content.rejected?_blank store.engine mode content
      rw [halike, Content.rejected?_blank, hrejected] at hnone
      exact Option.map_eq_none_iff.1 hnone
    left
    rw [← Content.failure?_blank service hrejected, ← Content.failure?_blank service hrejected',
      halike]
  | some rejected =>
    obtain ⟨path, found⟩ := rejected
    obtain ⟨found', hrejected', hfound⟩ := Content.rejected?_alike halike hrejected
    have hformat : found'.format = found.format := by
      rw [← Content.format_blank, hfound, Content.format_blank]
    have herror := Content.secrets_of_rejected hrejected service
    have herror' := Content.secrets_of_rejected hrejected' service
    rw [hformat] at herror'
    by_cases hshown : found.shown = found'.shown
    · left
      rw [herror, herror', hshown]
    · right
      exact ⟨path, found, found', rfl, hrejected', hfound.symm, hshown, herror, herror'⟩

/-- A document with a secret under a key, and two paths that stand for one name. -/
def secretText (secret : String) : String :=
  "\x7b\"a\":\x7b\"b\":\"" ++ secret ++ "\"\x7d,\"a-b\":\"\"\x7d"

def secretJson (secret : String) : Json :=
  .object [("a", .object [("b", .string secret)]), ("a-b", .string "")]

theorem secretJson_holds :
    sampleStore.Holds (sampleHost (secretText "one")) "app" (.json (secretJson "one")) ∧
    sampleStore.Holds (sampleHost (secretText "two")) "app" (.json (secretJson "two")) :=
  ⟨sampleStore_holds (by cbv) (by cbv), sampleStore_holds (by cbv) (by cbv)⟩

theorem Store.source_fails_alike_name_clash :
    failure? (sampleStore.source (sampleHost (secretText "one")) "app" .paths) ≠ none ∧
    failure? (sampleStore.source (sampleHost (secretText "one")) "app" .paths) =
      failure? (sampleStore.source (sampleHost (secretText "two")) "app" .paths) := by
  obtain ⟨hone, htwo⟩ := secretJson_holds
  have halike : (Content.json (secretJson "one")).blank = (Content.json (secretJson "two")).blank :=
    rfl
  constructor
  · rw [Store.source_of_holds hone]
    exact nofun
  · rcases Store.source_fails_alike hone htwo halike .paths with
      hequal | ⟨path, found, found', hrejected, -⟩
    · exact hequal
    · cases hrejected

/-- A rejected value shows the secrets inside it: only they differ here, and the errors tell them
apart. -/
theorem Store.source_shows_secret :
    (Content.json (secretJson "one")).blank = (Content.json (secretJson "two")).blank ∧
    sampleStore.source (sampleHost (secretText "one")) "app" .verbatim =
      .error (.malformed "app"
        "JSON value for key 'a' must be a string, found: \x7b\"b\":\"one\"\x7d") ∧
    sampleStore.source (sampleHost (secretText "two")) "app" .verbatim =
      .error (.malformed "app"
        "JSON value for key 'a' must be a string, found: \x7b\"b\":\"two\"\x7d") := by
  obtain ⟨hone, htwo⟩ := secretJson_holds
  refine ⟨rfl, ?_, ?_⟩
  · rw [Store.source_of_holds hone]
    cbv
  · rw [Store.source_of_holds htwo]
    cbv

end EnvInject
