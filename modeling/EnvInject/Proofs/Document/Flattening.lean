import EnvInject.Proofs.Document.Leaves
import EnvInject.Proofs.Json.Places
import Mathlib

/-!
# Flattening JSON documents

An object gives one entry for each place where secrets are looked for, in order, if there is a
secret at each of them. Otherwise the first place without one is the fault.

* `Json.IsScalar`, `Place.entry`, `Place.fault` : where a secret is, and what comes of a place;
* `JsonSecrets.placeEntries` : the entries of places, up to the first that holds no secret;
* `membersLeaves_eq_searched` : the entries of an object are those of its places;
* `json_flattened` : what a JSON document gives when it is read as it is written.
-/

namespace EnvInject

open Secret (Entry)
open Document

namespace Json

/-- Strings, numbers and truth values are secrets. -/
def IsScalar : Json → Prop
  | string _ | number _ | bool _ => True
  | _ => False

instance : DecidablePred IsScalar
  | string _ | number _ | bool _ => isTrue trivial
  | null | array _ | object _ => isFalse id

namespace Place

def path (place : Place) : String := "/".intercalate place.keys

theorem path_singleton (key : String) (value : Json) : path ⟨[key], value⟩ = key :=
  String.intercalate_singleton

def entry (place : Place) : Entry := (place.path, Content.scalarText (.json place.value))

def fault (place : Place) : Fault := .value .json place.path place.value.text

end Place

end Json

namespace Document.JsonSecrets

/-- The entries of places in order, or the fault of the first that holds no secret. -/
def placeEntries : List Json.Place → Except Fault (List Entry) :=
  checkAll (fun place => place.value.IsScalar) Json.Place.entry Json.Place.fault

theorem placeEntries_append (xs ys : List Json.Place) :
    placeEntries (xs ++ ys) = (do
      let here ← placeEntries xs
      let further ← placeEntries ys
      pure (here ++ further)) := checkAll_append xs ys

mutual

/-- The entries of the value below a key are those of its places. -/
theorem leaves_eq_placeEntries (keys : List String) (key : String) : (value : Json) →
    leaves .paths ("/".intercalate (keys ++ [key])) value =
      placeEntries (Json.places (keys ++ [key]) value)
  | .object members => by
    rw [leaves, ← Tree.aboveText_concat]
    exact membersLeaves_eq_placeEntries (keys ++ [key]) members
  | .null => rfl
  | .bool _ => rfl
  | .number _ => rfl
  | .string _ => rfl
  | .array _ => rfl

theorem membersLeaves_eq_placeEntries (keys : List String) : (members : List (String × Json)) →
    membersLeaves .paths (Tree.aboveText keys) members =
      placeEntries (Json.membersPlaces keys members)
  | [] => rfl
  | (key, value) :: rest => by
    rw [membersLeaves, Json.membersPlaces, placeEntries_append, ← Tree.intercalate_concat,
      leaves_eq_placeEntries keys key value, membersLeaves_eq_placeEntries keys rest]

end

theorem membersLeaves_verbatim (members : List (String × Json)) :
    membersLeaves .verbatim "" members = placeEntries (Json.searched .verbatim members) := by
  induction members with
  | nil => rfl
  | cons member rest ih =>
    obtain ⟨key, value⟩ := member
    have hhere : leaves .verbatim ("" ++ key) value = placeEntries [⟨[key], value⟩] := by
      have hpath : "" ++ key = Json.Place.path ⟨[key], value⟩ := by
        rw [String.empty_append, Json.Place.path_singleton]
      rw [hpath]
      cases value <;> rfl
    rw [membersLeaves, hhere, ih]
    exact (placeEntries_append [⟨[key], value⟩] _).symm

theorem membersLeaves_eq_searched (mode : KeyMode) (members : List (String × Json)) :
    membersLeaves mode "" members = placeEntries (Json.searched mode members) := by
  cases mode with
  | paths => exact membersLeaves_eq_placeEntries [] members
  | verbatim => exact membersLeaves_verbatim members

theorem ofValue_file_object (mode : KeyMode) (members : List (String × Json)) :
    ofValue .file mode (.object members) = placeEntries (Json.searched mode members) :=
  membersLeaves_eq_searched mode members

theorem ofValue_file_eq_ok_iff {mode : KeyMode} {value : Json} {entries : List Entry} :
    ofValue .file mode value = .ok entries ↔
      value = .null ∧ entries = [] ∨
      ∃ members, value = .object members ∧
        (∀ place ∈ Json.searched mode members, place.value.IsScalar) ∧
        entries = (Json.searched mode members).map Json.Place.entry := by
  cases value with
  | null =>
    constructor
    · intro h
      exact .inl ⟨rfl, (Except.ok.inj h).symm⟩
    · rintro (⟨-, rfl⟩ | ⟨_, hobject, -⟩)
      · rfl
      · cases hobject
  | object members =>
    rw [ofValue_file_object, placeEntries, checkAll_eq_ok_iff]
    constructor
    · intro h
      exact .inr ⟨members, rfl, h⟩
    · rintro (⟨hnull, -⟩ | ⟨_, hobject, h⟩)
      · cases hnull
      · cases hobject
        exact h
  | _ =>
    constructor
    · exact nofun
    · rintro (⟨hnull, -⟩ | ⟨_, hobject, -⟩)
      · cases hnull
      · cases hobject

theorem ofValue_file_eq_error_iff {mode : KeyMode} {value : Json} {fault : Fault} :
    ofValue .file mode value = .error fault ↔
      (value ≠ .null ∧ ¬ value.IsObject) ∧ fault = .notKeyed .json ∨
      ∃ members, value = .object members ∧ ∃ before place after,
        Json.searched mode members = before ++ place :: after ∧
        (∀ p ∈ before, p.value.IsScalar) ∧ ¬ place.value.IsScalar ∧ fault = place.fault := by
  cases value with
  | null =>
    constructor
    · exact nofun
    · rintro (⟨⟨hnull, -⟩, -⟩ | ⟨_, hobject, -⟩)
      · exact absurd rfl hnull
      · cases hobject
  | object members =>
    rw [ofValue_file_object, placeEntries, checkAll_eq_error_iff]
    constructor
    · intro h
      exact .inr ⟨members, rfl, h⟩
    · rintro (⟨⟨-, hobject⟩, -⟩ | ⟨_, hobject, h⟩)
      · exact absurd trivial hobject
      · cases hobject
        exact h
  | _ =>
    constructor
    · intro h
      exact .inl ⟨⟨nofun, id⟩, (Except.error.inj h).symm⟩
    · rintro (⟨-, rfl⟩ | ⟨_, hobject, -⟩)
      · rfl
      · cases hobject

end Document.JsonSecrets

/-- **Flattening loses no value, doubles none and misnames none.** -/
theorem Document.json_flattened {text : String} {value : Json} (h : Json.read? text = some value)
    (mode : KeyMode) :
    (∀ entries, textEntries .file mode text .json = .ok entries ↔
      value = .null ∧ entries = [] ∨
      ∃ members, value = .object members ∧
        (∀ place ∈ Json.searched mode members, place.value.IsScalar) ∧
        entries = (Json.searched mode members).map Json.Place.entry) ∧
    (∀ fault, textEntries .file mode text .json = .error fault ↔
      (value ≠ .null ∧ ¬ value.IsObject) ∧ fault = .notKeyed .json ∨
      ∃ members, value = .object members ∧ ∃ before place after,
        Json.searched mode members = before ++ place :: after ∧
        (∀ p ∈ before, p.value.IsScalar) ∧ ¬ place.value.IsScalar ∧ fault = place.fault) ∧
    ∀ members, value = .object members →
      ((Json.searched mode members).map Json.Place.keys).Pairwise (· < ·) ∧
      ∀ place, place ∈ Json.searched mode members ↔
        (Json.object members).at? place.keys = some place.value ∧ place.IsSearched mode := by
  have hentries : textEntries .file mode text .json = JsonSecrets.ofValue .file mode value :=
    Content.textEntries_of_read? (Content.read?_json h) .file mode
  have hsorted : value.Sorted := Json.sorted_of_read? h
  rw [hentries]
  refine ⟨fun entries => JsonSecrets.ofValue_file_eq_ok_iff,
    fun fault => JsonSecrets.ofValue_file_eq_error_iff, ?_⟩
  rintro members rfl
  exact ⟨Json.searched_ascending hsorted mode, Json.mem_searched_iff hsorted mode⟩

/-- A document with an empty key and an empty object. -/
def emptyKeyText : String := "\x7b\"b\":\x7b\"\":1,\"a\":\x7b\x7d\x7d,\"\":true\x7d"

/-- A document with two values that are no secrets. -/
def nullBelowText : String := "\x7b\"b\":[],\"a\":\x7b\"c\":null\x7d\x7d"

theorem Document.json_flattened_empty_key :
    textEntries .file .paths emptyKeyText .json = .ok [("", "true"), ("b/", "1")] ∧
    textEntries .file .paths nullBelowText .json = .error (.value .json "a/c" "null") ∧
    textEntries .file .verbatim nullBelowText .json =
      .error (.value .json "a" "\x7b\"c\":null\x7d") := by
  have hkeys : Json.read? emptyKeyText = some
      (.object [("", .bool true), ("b", .object [("", .number (.int 1)), ("a", .object [])])]) := by
    cbv
  have hnull : Json.read? nullBelowText = some
      (.object [("a", .object [("c", .null)]), ("b", .array [])]) := by
    cbv
  refine ⟨?_, ?_, ?_⟩
  · exact ((Document.json_flattened hkeys .paths).1 _).2
      (.inr ⟨_, rfl, by decide, by decide⟩)
  · exact ((Document.json_flattened hnull .paths).2.1 _).2
      (.inr ⟨_, rfl, [], _, _, rfl, List.forall_mem_nil _, id, by decide⟩)
  · exact ((Document.json_flattened hnull .verbatim).2.1 _).2
      (.inr ⟨_, rfl, [], _, _, rfl, List.forall_mem_nil _, id, by decide⟩)

end EnvInject
