import EnvInject.Text.Split

/-!
# Cutting and joining

Cutting a text at a character and joining the parts with it give the text back, so a text is known by
its parts.

* `splitAt_eq_splitOn` : the parts are those of `List.splitOn`;
* `intercalate_split`, `split_intercalate`, `split_injective` : text and parts determine each other;
* `notMem_of_mem_split` : no part has the separator in it;
* `splitAt_flatMap` : lines that each end with the separator are the parts.
-/

namespace EnvInject.Text

theorem splitAt_eq_splitOn (sep : Char) (cs : List Char) : splitAt sep cs = cs.splitOn sep := by
  induction cs with
  | nil => rfl
  | cons c rest ih =>
    rw [splitAt, List.splitOn_cons_eq_if_modifyHead, ← ih]
    by_cases hc : c = sep
    · simp [hc]
    · simp only [if_neg hc, beq_iff_eq]
      cases h : splitAt sep rest with
      | nil => exact absurd h (splitAt_ne_nil sep rest)
      | cons part parts => rfl

/-- Lines with their ends are cut into the lines, and nothing is left after the last end. -/
theorem splitAt_flatMap {sep : Char} {lines : List (List Char)} (h : ∀ line ∈ lines, sep ∉ line) :
    splitAt sep (lines.flatMap fun line => line ++ [sep]) = lines ++ [[]] := by
  induction lines with
  | nil => rfl
  | cons line rest ih =>
    obtain ⟨hline, hrest⟩ := List.forall_mem_cons.1 h
    rw [List.flatMap_cons, List.append_assoc, List.singleton_append, splitAt_append_cons,
      splitAt_of_not_mem hline, ih hrest]
    rfl

theorem map_toList_split (sep : Char) (s : String) :
    (split sep s).map String.toList = splitAt sep s.toList := by
  simp [split, Function.comp_def]

theorem split_ne_nil (sep : Char) (s : String) : split sep s ≠ [] := by
  unfold split
  intro h
  exact splitAt_ne_nil sep s.toList (List.map_eq_nil_iff.1 h)

/-- Joining the parts gives the text back. -/
theorem intercalate_split (sep : Char) (s : String) :
    (String.singleton sep).intercalate (split sep s) = s := by
  apply String.ext
  rw [String.toList_intercalate, map_toList_split, splitAt_eq_splitOn, String.toList_singleton]
  exact List.intercalate_splitOn sep

/-- Parts without the separator are the parts of the text that joins them. -/
theorem split_intercalate {sep : Char} {parts : List String} (hne : parts ≠ [])
    (h : ∀ part ∈ parts, sep ∉ part.toList) :
    split sep ((String.singleton sep).intercalate parts) = parts := by
  have hparts : splitAt sep ((String.singleton sep).intercalate parts).toList =
      parts.map String.toList := by
    rw [String.toList_intercalate, splitAt_eq_splitOn, String.toList_singleton]
    refine List.splitOn_intercalate sep (fun part hpart => ?_) (by simpa using hne)
    obtain ⟨s, hs, rfl⟩ := List.mem_map.1 hpart
    exact h s hs
  rw [split, hparts, List.map_map]
  simp [Function.comp_def]

theorem split_injective {sep : Char} {s t : String} (h : split sep s = split sep t) : s = t := by
  rw [← intercalate_split sep s, h, intercalate_split]

theorem notMem_of_mem_splitAt {sep : Char} {cs part : List Char} (h : part ∈ splitAt sep cs) :
    sep ∉ part := by
  induction cs generalizing part with
  | nil =>
    obtain rfl : part = [] := by simpa [splitAt] using h
    exact List.not_mem_nil
  | cons c rest ih =>
    rw [splitAt] at h
    split at h
    · rcases List.mem_cons.1 h with rfl | hrest
      · exact List.not_mem_nil
      · exact ih hrest
    · rename_i hc
      cases hparts : splitAt sep rest with
      | nil => exact absurd hparts (splitAt_ne_nil sep rest)
      | cons first parts =>
        rw [hparts] at h ih
        rcases List.mem_cons.1 h with rfl | hrest
        · have hfirst : sep ∉ first := ih List.mem_cons_self
          simp [hfirst, Ne.symm hc]
        · exact ih (List.mem_cons_of_mem _ hrest)

theorem notMem_of_mem_split {sep : Char} {s part : String} (h : part ∈ split sep s) :
    sep ∉ part.toList := by
  have hpart : part.toList ∈ splitAt sep s.toList := by
    rw [← map_toList_split]
    exact List.mem_map_of_mem h
  exact notMem_of_mem_splitAt hpart

/-- A separator between two texts is a cut between their parts. -/
theorem split_append_cons {sep : Char} {s front back : String}
    (h : s.toList = front.toList ++ sep :: back.toList) :
    split sep s = split sep front ++ split sep back := by
  unfold split
  rw [h, splitAt_append_cons, List.map_append]

/-- A text without the separator is one part. -/
theorem split_of_notMem {sep : Char} {s : String} (h : sep ∉ s.toList) : split sep s = [s] := by
  unfold split
  rw [splitAt_of_not_mem h, List.map_singleton, String.ofList_toList]

end EnvInject.Text
