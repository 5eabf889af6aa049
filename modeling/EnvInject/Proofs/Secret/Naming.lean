import EnvInject.Proofs.Secret.Parts
import Mathlib

/-!
# Names that stand for themselves

The name of a path is made of characters that stay as they are, so it is its own name. A set of
secrets that was collected from paths is therefore collected unchanged from its own names.

* `IsNameChar`, `nameChar_eq_self_iff` : the characters that stay as they are;
* `variableName_eq_self_iff` : the texts that are their own names;
* `SecretSet.ofPairs_entries` : a set is what comes of setting its secrets one after the other;
* `collect_again` : what is collected from the names of a collected set.
-/

namespace EnvInject

theorem SecretSet.ofPairs_entries (set : SecretSet) : ofPairs set.entries = set := by
  apply ext_get?
  intro name
  rw [get?_ofPairs set.nodup_names]
  rfl

namespace Secret

/-- No small ASCII letter, no separator and no blank. -/
structure IsNameChar (c : Char) : Prop where
  notSmall : ¬ ('a' ≤ c ∧ c ≤ 'z')
  notSlash : c ≠ '/'
  notDash : c ≠ '-'
  notDot : c ≠ '.'
  notBlank : Text.isBlank c = false

theorem isLower_iff {c : Char} : c.isLower = true ↔ 'a' ≤ c ∧ c ≤ 'z' := by
  simp [Char.isLower, Char.le_def]

theorem isNameChar_of_isUpper {c : Char} (h : c.isUpper = true) : IsNameChar c := by
  have hcode : 65 ≤ c.toNat ∧ c.toNat ≤ 90 := by
    simpa [Char.isUpper, UInt32.le_iff_toNat_le, ← Char.toNat_val] using h
  have hother (d : Char) (hd : d.toNat < 65) : c ≠ d := by
    rintro rfl
    omega
  refine ⟨fun hsmall => ?_, hother '/' (by decide), hother '-' (by decide), hother '.' (by decide),
    ?_⟩
  · have hfirst : 97 ≤ c.toNat := hsmall.1
    omega
  · unfold Text.isBlank
    simp only [Bool.or_eq_false_iff, Bool.and_eq_false_iff, beq_eq_false_iff_ne,
      decide_eq_false_iff_not]
    omega

theorem isNameChar_nameChar (c : Char) : IsNameChar (nameChar c) := by
  have hunderscore : IsNameChar '_' := ⟨by decide, by decide, by decide, by decide, rfl⟩
  unfold nameChar
  split
  · exact hunderscore
  · rename_i hseparator
    split
    · exact hunderscore
    · rename_i hblank
      by_cases hlower : c.isLower = true
      · have hupper : c.toUpper.isUpper = true := by
          rw [Char.isUpper_toUpper_eq_isAlpha, Char.isAlpha, hlower, Bool.or_true]
        exact isNameChar_of_isUpper hupper
      · rw [Char.toUpper_eq_of_not_isLower hlower]
        simp only [Bool.or_eq_true, beq_iff_eq, not_or] at hseparator
        exact ⟨fun h => hlower (isLower_iff.2 h), hseparator.1.1, hseparator.1.2, hseparator.2,
          Bool.not_eq_true _ ▸ hblank⟩

theorem nameChar_eq_self_iff {c : Char} : nameChar c = c ↔ IsNameChar c := by
  constructor
  · intro h
    rw [← h]
    exact isNameChar_nameChar c
  · intro h
    have hlower : ¬ c.isLower = true := fun hlower => h.notSmall (isLower_iff.1 hlower)
    simp [nameChar, h.notSlash, h.notDash, h.notDot, h.notBlank,
      Char.toUpper_eq_of_not_isLower hlower]

theorem isNameChar_of_mem_variableName {path : String} {c : Char}
    (h : c ∈ (variableName path).toList) : IsNameChar c := by
  rw [variableName, String.toList_ofList] at h
  obtain ⟨d, -, rfl⟩ := List.mem_map.1 h
  exact isNameChar_nameChar d

theorem variableName_eq_self_iff {s : String} :
    variableName s = s ↔ ∀ c ∈ s.toList, IsNameChar c := by
  constructor
  · intro h c hc
    rw [← h] at hc
    exact isNameChar_of_mem_variableName hc
  · intro h
    have hdrop : s.toList.dropWhile (· == '/') = s.toList := by
      rw [List.dropWhile_eq_self_iff]
      intro hlength hslash
      exact (h _ (List.getElem_mem hlength)).notSlash (beq_iff_eq.1 hslash)
    have hmap : s.toList.map nameChar = s.toList := by
      rw [List.map_congr_left fun c hc => nameChar_eq_self_iff.2 (h c hc), List.map_id']
    rw [variableName, hdrop, hmap, String.ofList_toList]

theorem variableName_variableName (path : String) :
    variableName (variableName path) = variableName path :=
  variableName_eq_self_iff.2 fun _ => isNameChar_of_mem_variableName

section Collected
variable {service : String} {entries : List Entry} {set : SecretSet}

theorem exists_path_of_collect (h : collect service .paths entries = .ok set) {name : String}
    (hname : name ∈ set.names) : name ≠ "" ∧ ∃ path, name = variableName path := by
  obtain ⟨entry, -, ⟨hmode, -⟩ | ⟨-, hpath, hne⟩⟩ := mem_names_of_collect h hname
  · cases hmode
  · exact ⟨hne, entry.1, hpath⟩

/-- A set with names that stand for themselves is collected as it is. -/
theorem collect_entries (hnames : ∀ name ∈ set.names, name ≠ "" ∧ variableName name = name) :
    collect service .paths set.entries = .ok set := by
  have haccepted : Accepted set.names := by
    refine ⟨fun p hp => ?_, fun p hp q hq hsame => ?_⟩
    · rw [(hnames p hp).2]
      exact (hnames p hp).1
    · rwa [(hnames p hp).2, (hnames q hq).2] at hsame
  have hentries : set.entries.map named = set.entries := by
    have hself (entry : Entry) (hentry : entry ∈ set.entries) : named entry = entry := by
      rw [named, (hnames entry.1 (List.mem_map_of_mem hentry)).2]
    rw [List.map_congr_left hself, List.map_id']
  refine collect_paths_eq_ok_iff.2 ⟨haccepted, ?_⟩
  rw [hentries, SecretSet.ofPairs_entries]

end Collected

/-- **Collecting what was collected changes nothing**, as names stand for themselves. -/
theorem collect_again :
    (∀ path, variableName (variableName path) = variableName path) ∧
    (∀ path, ∀ c ∈ (variableName path).toList, IsNameChar c) ∧
    (∀ s, variableName s = s ↔ ∀ c ∈ s.toList, IsNameChar c) ∧
    ∀ service entries set, collect service .paths entries = .ok set →
      collect service .paths set.entries = .ok set ∧
      ∀ name ∈ set.names, name ≠ "" ∧ ∀ c ∈ name.toList, IsNameChar c := by
  refine ⟨variableName_variableName, fun path c => isNameChar_of_mem_variableName,
    fun s => variableName_eq_self_iff, ?_⟩
  intro service entries set h
  constructor
  · refine collect_entries fun name hname => ?_
    obtain ⟨hne, path, rfl⟩ := exists_path_of_collect h hname
    exact ⟨hne, variableName_variableName path⟩
  · intro name hname
    obtain ⟨hne, path, rfl⟩ := exists_path_of_collect h hname
    exact ⟨hne, fun c => isNameChar_of_mem_variableName⟩

theorem collect_again_no_break_space :
    ∃ set, collect "app" .paths [("/smtp.host", "one"), ("db\u00a0key-é", "two")] = .ok set ∧
      set.names = ["DB_KEY_é", "SMTP_HOST"] ∧ collect "app" .paths set.entries = .ok set := by
  have hset : collect "app" .paths [("/smtp.host", "one"), ("db\u00a0key-é", "two")] =
      .ok (.ofPairs [("SMTP_HOST", "one"), ("DB_KEY_é", "two")]) := rfl
  exact ⟨_, hset, rfl, (collect_again.2.2.2 _ _ _ hset).1⟩

end Secret

end EnvInject
