import EnvInject.Text.Blank
import Mathlib.Data.List.DropRight

/-!
# Trimming

* `Tight`, `trim_of_tight` : a text that neither begins nor ends with a blank is its own trim;
* `tight_trim`, `trim_trim` : every trim is such a text;
* `trim_padded` : blanks put around a text do not change its trim;
* `exists_padding`, `trim_append_blanks` : a text is its trim with blanks around it, and blanks put
  behind it do not count.
-/

namespace EnvInject.Text

variable {cs before after : List Char}

theorem trimEnd_eq_rdropWhile (cs : List Char) : trimEnd cs = cs.rdropWhile isBlank := rfl

structure Tight (cs : List Char) : Prop where
  head : ∀ c ∈ cs.head?, isBlank c = false
  last : ∀ c ∈ cs.getLast?, isBlank c = false

theorem trimStart_eq_self_iff : trimStart cs = cs ↔ ∀ c ∈ cs.head?, isBlank c = false := by
  cases cs with
  | nil => simp [trimStart]
  | cons c rest => simp [trimStart, List.dropWhile_eq_self_iff]

theorem trimEnd_eq_self_iff : trimEnd cs = cs ↔ ∀ c ∈ cs.getLast?, isBlank c = false := by
  rw [trimEnd_eq_rdropWhile, List.rdropWhile_eq_self_iff]
  rcases List.eq_nil_or_concat cs with rfl | ⟨front, last, rfl⟩
  · simp
  · simp

theorem trim_of_tight (h : Tight cs) : trim cs = cs := by
  rw [trim, trimStart_eq_self_iff.2 h.head, trimEnd_eq_self_iff.2 h.last]

theorem tight_trim (cs : List Char) : Tight (trim cs) := by
  have hend : trimEnd (trim cs) = trim cs := by
    unfold trim
    rw [trimEnd_eq_rdropWhile, trimEnd_eq_rdropWhile, List.rdropWhile_idempotent]
  have hstart : trimStart (trimStart cs) = trimStart cs := List.dropWhile_idempotent _ _
  refine ⟨fun c hc => ?_, trimEnd_eq_self_iff.1 hend⟩
  -- what is cut off the end leaves the first character where it is
  have hprefix : trim cs <+: trimStart cs := List.rdropWhile_prefix _ _
  have hhead : c ∈ (trimStart cs).head? := by
    obtain ⟨rest, hrest⟩ := List.head?_eq_some_iff.1 hc
    rw [hrest] at hprefix
    obtain ⟨tail, htail⟩ := hprefix
    rw [← htail]
    rfl
  exact trimStart_eq_self_iff.1 hstart c hhead

theorem trim_trim (cs : List Char) : trim (trim cs) = trim cs := trim_of_tight (tight_trim cs)

theorem trim_of_blank (h : ∀ c ∈ cs, isBlank c = true) : trim cs = [] := by
  have hstart : trimStart cs = [] := List.dropWhile_eq_nil_iff.2 h
  rw [trim, hstart]
  rfl

theorem trim_padded (hbefore : ∀ c ∈ before, isBlank c = true) (htight : Tight cs)
    (hafter : ∀ c ∈ after, isBlank c = true) : trim (before ++ (cs ++ after)) = cs := by
  have hstart : trimStart (before ++ (cs ++ after)) = trimStart (cs ++ after) :=
    List.dropWhile_append_of_pos hbefore
  rw [trim, hstart]
  cases cs with
  | nil => exact trim_of_blank hafter
  | cons c rest =>
    have hc : trimStart (c :: rest ++ after) = c :: rest ++ after :=
      trimStart_eq_self_iff.2 htight.head
    rw [hc]
    have hend : trimEnd (c :: rest ++ after) = trimEnd (c :: rest) := by
      unfold trimEnd
      rw [List.reverse_append, List.dropWhile_append_of_pos]
      intro d hd
      exact hafter d (List.mem_reverse.1 hd)
    rw [hend, trimEnd_eq_self_iff.2 htight.last]

theorem exists_padding (cs : List Char) :
    ∃ before after, (∀ c ∈ before, isBlank c = true) ∧ (∀ c ∈ after, isBlank c = true) ∧
      cs = before ++ (trim cs ++ after) := by
  refine ⟨cs.takeWhile isBlank, (trimStart cs).rtakeWhile isBlank, fun c hc => ?_, fun c hc => ?_, ?_⟩
  · exact List.mem_takeWhile_imp hc
  · exact List.mem_rtakeWhile_imp hc
  · rw [trim, trimEnd_eq_rdropWhile, List.rdropWhile_append_rtakeWhile]
    exact List.takeWhile_append_dropWhile.symm

theorem trim_append_blanks (cs : List Char) (h : ∀ c ∈ after, isBlank c = true) :
    trim (cs ++ after) = trim cs := by
  obtain ⟨before, behind, hbefore, hbehind, hcs⟩ := exists_padding cs
  have hpadding : ∀ c ∈ behind ++ after, isBlank c = true := List.forall_mem_append.2 ⟨hbehind, h⟩
  have hlist : cs ++ after = before ++ (trim cs ++ (behind ++ after)) := by
    calc cs ++ after = before ++ (trim cs ++ behind) ++ after := congrArg (· ++ after) hcs
      _ = before ++ (trim cs ++ (behind ++ after)) := by simp only [List.append_assoc]
  rw [hlist, trim_padded hbefore (tight_trim cs) hpadding]

/-- Blanks in front of a character that is none are cut off, and no more. -/
theorem head?_trim_padded {c : Char} (hbefore : ∀ c ∈ before, isBlank c = true)
    (hc : isBlank c = false) : (trim (before ++ c :: cs)).head? = some c := by
  have hstart : trimStart (before ++ c :: cs) = c :: cs := by
    rw [trimStart, List.dropWhile_append_of_pos hbefore, List.dropWhile_cons_of_neg (by simp [hc])]
  have hprefix : trimEnd (c :: cs) <+: c :: cs := List.rdropWhile_prefix _ _
  have hne : trimEnd (c :: cs) ≠ [] := by
    intro hnil
    have hblank := List.rdropWhile_eq_nil_iff.1 hnil c List.mem_cons_self
    rw [hc] at hblank
    cases hblank
  obtain ⟨d, rest, hcons⟩ := List.exists_cons_of_ne_nil hne
  rw [trim, hstart, hcons]
  rw [hcons] at hprefix
  rw [(List.cons_prefix_cons.1 hprefix).1]
  rfl

end EnvInject.Text
