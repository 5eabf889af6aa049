import EnvInject.Proofs.Json.Sorted
import EnvInject.Secret.Collect

/-!
# Places in an object

A place is a value with the keys that lead to it from the top. The places where an object may hold
secrets are those of the values that are no objects themselves, depth first.

* `Json.at?` : the value to which keys lead;
* `places`, `membersPlaces` : the values that are no objects, with their keys (`mem_places_iff`);
* `places_ascending` : in an object in order the places ascend by their keys;
* `searched` : the places where secrets are looked for, under either key mode.
-/

namespace EnvInject.Json

/-- A value with the keys that lead to it. -/
structure Place where
  keys : List String
  value : Json

def at? : Json → List String → Option Json
  | value, [] => some value
  | object members, key :: rest => (members.lookup key).bind (at? · rest)
  | _, _ :: _ => none

def IsObject : Json → Prop
  | object _ => True
  | _ => False

mutual

/-- The values that are no objects, depth first, with the keys that lead to them from `above` on. -/
def places (above : List String) : Json → List Place
  | object members => membersPlaces above members
  | value => [⟨above, value⟩]

def membersPlaces (above : List String) : List (String × Json) → List Place
  | [] => []
  | (key, value) :: rest => places (above ++ [key]) value ++ membersPlaces above rest

end

theorem places_of_not_isObject {value : Json} (h : ¬ value.IsObject) (above : List String) :
    places above value = [⟨above, value⟩] := by
  cases value with
  | object members => exact absurd trivial h
  | _ => rfl

theorem at?_of_not_isObject {value : Json} (h : ¬ value.IsObject) (key : String)
    (rest : List String) : value.at? (key :: rest) = none := by
  cases value with
  | object members => exact absurd trivial h
  | _ => rfl

theorem at?_object (members : List (String × Json)) (key : String) (rest : List String) :
    (object members).at? (key :: rest) = (members.lookup key).bind (at? · rest) := by
  rw [at?]

theorem exists_mem_of_at? {members : List (String × Json)} {key : String} {rest : List String}
    {v : Json} (h : (object members).at? (key :: rest) = some v) : ∃ w, (key, w) ∈ members := by
  rw [at?_object] at h
  obtain ⟨w, hw, -⟩ := Option.bind_eq_some_iff.1 h
  obtain ⟨front, back, hsplit, -⟩ := List.lookup_eq_some_iff.1 hw
  exact ⟨w, by simp [hsplit]⟩

theorem mem_singleton_place_iff {value v : Json} (h : ¬ value.IsObject) (above keys : List String) :
    ⟨keys, v⟩ ∈ places above value ↔
      ∃ rest, keys = above ++ rest ∧ value.at? rest = some v ∧ ¬ v.IsObject := by
  rw [places_of_not_isObject h, List.mem_singleton, Place.mk.injEq]
  constructor
  · rintro ⟨rfl, rfl⟩
    exact ⟨[], (List.append_nil _).symm, rfl, h⟩
  · rintro ⟨rest, rfl, hat, hv⟩
    cases rest with
    | nil =>
      obtain rfl : value = v := Option.some.inj hat
      exact ⟨List.append_nil _, rfl⟩
    | cons key rest =>
      rw [at?_of_not_isObject h] at hat
      cases hat

mutual

/-- The places are the values that are no objects and to which keys lead. -/
theorem mem_places_iff (above keys : List String) (v : Json) : (value : Json) → value.Sorted →
    (⟨keys, v⟩ ∈ places above value ↔
      ∃ rest, keys = above ++ rest ∧ value.at? rest = some v ∧ ¬ v.IsObject)
  | .object members, h => by
    have hmembers : Ordered.Ascending members ∧ ∀ member ∈ members, member.2.Sorted := by
      cases h with
      | object hkeys h => exact ⟨hkeys, h⟩
    rw [places, mem_membersPlaces_iff above keys v members hmembers.1 hmembers.2]
    constructor
    · rintro ⟨key, rest, rfl, hat, hv⟩
      exact ⟨key :: rest, rfl, hat, hv⟩
    · rintro ⟨rest, rfl, hat, hv⟩
      cases rest with
      | nil =>
        obtain rfl : Json.object members = v := Option.some.inj hat
        exact absurd trivial hv
      | cons key rest => exact ⟨key, rest, rfl, hat, hv⟩
  | .null, _ => mem_singleton_place_iff id above keys
  | .bool _, _ => mem_singleton_place_iff id above keys
  | .number _, _ => mem_singleton_place_iff id above keys
  | .string _, _ => mem_singleton_place_iff id above keys
  | .array _, _ => mem_singleton_place_iff id above keys

theorem mem_membersPlaces_iff (above keys : List String) (v : Json) :
    (members : List (String × Json)) → Ordered.Ascending members →
      (∀ member ∈ members, member.2.Sorted) →
      (⟨keys, v⟩ ∈ membersPlaces above members ↔
        ∃ key rest, keys = above ++ key :: rest ∧
          (object members).at? (key :: rest) = some v ∧ ¬ v.IsObject)
  | [], _, _ => by simp [membersPlaces, at?]
  | (k, value) :: rest, hkeys, h => by
    obtain ⟨hvalue, hrest⟩ := List.forall_mem_cons.1 h
    obtain ⟨hfirst, hascending⟩ := Ordered.ascending_cons.1 hkeys
    rw [membersPlaces, List.mem_append, mem_places_iff (above ++ [k]) keys v value hvalue,
      mem_membersPlaces_iff above keys v rest hascending hrest]
    constructor
    · rintro (⟨further, rfl, hat, hv⟩ | ⟨key, further, rfl, hat, hv⟩)
      · refine ⟨k, further, by simp, ?_, hv⟩
        rw [at?_object, Pairs.lookup_cons, if_pos rfl]
        exact hat
      · refine ⟨key, further, rfl, ?_, hv⟩
        -- the first key is less than all further ones, so it is not found again
        have hne : key ≠ k := by
          rintro rfl
          obtain ⟨w, hw⟩ := exists_mem_of_at? hat
          exact String.lt_irrefl _ (hfirst _ hw)
        rwa [at?_object, Pairs.lookup_cons, if_neg hne, ← at?_object]
    · rintro ⟨key, further, rfl, hat, hv⟩
      rw [at?_object, Pairs.lookup_cons] at hat
      by_cases hkey : key = k
      · subst hkey
        rw [if_pos rfl] at hat
        exact .inl ⟨further, by simp, hat, hv⟩
      · rw [if_neg hkey, ← at?_object] at hat
        exact .inr ⟨key, further, rfl, hat, hv⟩

end

mutual

theorem places_ascending (above : List String) : (value : Json) → value.Sorted →
    ((places above value).map Place.keys).Pairwise (· < ·)
  | .object members, h => by
    cases h with
    | object hkeys h => exact membersPlaces_ascending above members hkeys h
  | .null, _ => List.pairwise_singleton _ _
  | .bool _, _ => List.pairwise_singleton _ _
  | .number _, _ => List.pairwise_singleton _ _
  | .string _, _ => List.pairwise_singleton _ _
  | .array _, _ => List.pairwise_singleton _ _

theorem membersPlaces_ascending (above : List String) : (members : List (String × Json)) →
    Ordered.Ascending members → (∀ member ∈ members, member.2.Sorted) →
    ((membersPlaces above members).map Place.keys).Pairwise (· < ·)
  | [], _, _ => List.Pairwise.nil
  | (k, value) :: rest, hkeys, h => by
    obtain ⟨hvalue, hrest⟩ := List.forall_mem_cons.1 h
    obtain ⟨hfirst, hascending⟩ := Ordered.ascending_cons.1 hkeys
    rw [membersPlaces, List.map_append]
    refine List.pairwise_append.2 ⟨places_ascending (above ++ [k]) value hvalue,
      membersPlaces_ascending above rest hascending hrest, ?_⟩
    intro keys hhere keys' hfurther
    obtain ⟨⟨_, v⟩, hplace, rfl⟩ := List.mem_map.1 hhere
    obtain ⟨⟨_, v'⟩, hplace', rfl⟩ := List.mem_map.1 hfurther
    obtain ⟨below, rfl, -⟩ := (mem_places_iff _ _ v value hvalue).1 hplace
    obtain ⟨key, below', rfl, hat, -⟩ :=
      (mem_membersPlaces_iff _ _ v' rest hascending hrest).1 hplace'
    obtain ⟨w, hw⟩ := exists_mem_of_at? hat
    have hlt : k < key := hfirst _ hw
    rw [List.append_assoc]
    exact List.append_left_lt (List.cons_lt_cons_iff.2 (.inl hlt))

end

/-! ## Where secrets are looked for -/

/-- The places where secrets are looked for: at any depth if keys form paths, and only at the top if
they are names. -/
def searched (mode : KeyMode) (members : List (String × Json)) : List Place :=
  match mode with
  | .paths => membersPlaces [] members
  | .verbatim => members.map fun member => ⟨[member.1], member.2⟩

/-- A place where a key mode has secrets. -/
def Place.IsSearched (mode : KeyMode) (place : Place) : Prop :=
  match mode with
  | .paths => ¬ place.value.IsObject
  | .verbatim => place.keys.length = 1

section Searched
variable {members : List (String × Json)}

theorem searched_ascending (h : (object members).Sorted) (mode : KeyMode) :
    ((searched mode members).map Place.keys).Pairwise (· < ·) := by
  cases mode with
  | paths => exact places_ascending [] (object members) h
  | verbatim =>
    cases h with
    | object hkeys h =>
      rw [searched, List.map_map]
      refine List.pairwise_map.2 ((List.pairwise_map.1 hkeys).imp fun hlt => ?_)
      exact List.cons_lt_cons_iff.2 (.inl hlt)

theorem mem_searched_iff (h : (object members).Sorted) (mode : KeyMode) (place : Place) :
    place ∈ searched mode members ↔
      (object members).at? place.keys = some place.value ∧ place.IsSearched mode := by
  cases mode with
  | paths =>
    obtain ⟨keys, v⟩ := place
    have hplaces := mem_places_iff [] keys v (object members) h
    refine hplaces.trans ⟨?_, fun ⟨hat, hv⟩ => ⟨keys, rfl, hat, hv⟩⟩
    rintro ⟨rest, rfl, hat, hv⟩
    exact ⟨hat, hv⟩
  | verbatim =>
    have hnodup : (members.map Prod.fst).Nodup := by
      cases h with
      | object hkeys h => exact hkeys.imp String.ne_of_lt
    obtain ⟨keys, v⟩ := place
    unfold searched
    rw [List.mem_map]
    constructor
    · rintro ⟨⟨key, w⟩, hmem, heq⟩
      obtain ⟨rfl, rfl⟩ := Place.mk.inj heq
      refine ⟨?_, rfl⟩
      rw [at?_object, (Pairs.lookup_eq_some_iff hnodup key w).2 hmem]
      rfl
    · rintro ⟨hat, hlength⟩
      obtain ⟨key, rfl⟩ := List.length_eq_one_iff.1 hlength
      rw [at?_object] at hat
      obtain ⟨w, hw, hrest⟩ := Option.bind_eq_some_iff.1 hat
      obtain rfl : w = v := Option.some.inj hrest
      exact ⟨(key, w), (Pairs.lookup_eq_some_iff hnodup key w).1 hw, rfl⟩

end Searched

end EnvInject.Json
