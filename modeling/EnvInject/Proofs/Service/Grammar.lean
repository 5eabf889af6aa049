import EnvInject.Proofs.Text.Splitting
import EnvInject.Service
import Mathlib

/-!
# The grammar of service names

A service name is one or more segments joined by single slashes. Checking a text accepts just the
service names of at most 2048 bytes. Of a text that is neither empty nor too long it refuses the
first part between slashes that is no segment.

* `IsSegment`, `IsServiceName` : the grammar;
* `BadSegment`, `FirstBad` : what is wrong with a part, and with the first part that is no segment;
* `segmentFault?_eq_none_iff`, `segmentFault?_eq_some_iff` : what is said of a part;
* `segments_eq_iff` : the parts of a text are those that join to it;
* `isServiceName_iff`, `firstBad_iff` : the grammar by the parts of a text;
* `check_eq_ok_iff`, `check_grammar` : what is accepted, and what is said of the rest.
-/

namespace EnvInject.Service

/-- ASCII letters and digits, `-`, `_` and `.`. -/
def IsSegmentChar (c : Char) : Prop :=
  ('a' ≤ c ∧ c ≤ 'z') ∨ ('A' ≤ c ∧ c ≤ 'Z') ∨ ('0' ≤ c ∧ c ≤ '9') ∨ c = '-' ∨ c = '_' ∨ c = '.'

structure IsSegment (s : String) : Prop where
  nonempty : s ≠ ""
  notDot : s ≠ "."
  notDots : s ≠ ".."
  chars : ∀ c ∈ s.toList, IsSegmentChar c

/-- One or more segments joined by single slashes. -/
def IsServiceName (name : String) : Prop :=
  ∃ parts, parts ≠ [] ∧ (∀ part ∈ parts, IsSegment part) ∧ "/".intercalate parts = name

/-- What is wrong with a part that is no segment. -/
inductive BadSegment : String → Fault → Prop where
  | empty : BadSegment "" .emptySegment
  | dot : BadSegment "." .relativeSegment
  | dots : BadSegment ".." .relativeSegment
  | char {s : String} (front : List Char) (c : Char) (back : List Char)
    (hsplit : s.toList = front ++ c :: back) (hfront : ∀ d ∈ front, IsSegmentChar d)
    (hc : ¬ IsSegmentChar c) : BadSegment s (.invalidChar c)

/-- What is wrong with the first part of a text that is no segment. -/
def FirstBad (name : String) (fault : Fault) : Prop :=
  ∃ before part after, "/".intercalate (before ++ part :: after) = name ∧
    (∀ earlier ∈ before, IsSegment earlier) ∧ (∀ later ∈ part :: after, '/' ∉ later.toList) ∧
    BadSegment part fault

variable {s name : String} {c : Char} {fault : Fault}

/-! ## Segments -/

theorem isNameChar_iff : isNameChar c = true ↔ IsSegmentChar c := by
  simp only [isNameChar, Char.isAlphanum, Char.isAlpha, Char.isUpper, Char.isLower, Char.isDigit,
    IsSegmentChar, Char.le_def, Bool.or_eq_true, Bool.and_eq_true, decide_eq_true_eq, beq_iff_eq]
  tauto

theorem IsSegment.notMem_slash (h : IsSegment s) : '/' ∉ s.toList := by
  intro hslash
  have hnot : ¬ IsSegmentChar '/' := by
    rw [← isNameChar_iff]
    decide
  exact hnot (h.chars '/' hslash)

/-- The checks on a part, in their order. -/
theorem segmentFault?_cases (s : String) :
    (s = "" ∧ segmentFault? s = some .emptySegment) ∨
    ((s = "." ∨ s = "..") ∧ segmentFault? s = some .relativeSegment) ∨
    (s ≠ "" ∧ s ≠ "." ∧ s ≠ ".." ∧
      segmentFault? s = (s.toList.find? fun c => !isNameChar c).map .invalidChar) := by
  by_cases hempty : s = ""
  · subst hempty
    exact .inl ⟨rfl, rfl⟩
  · by_cases hrelative : s = "." ∨ s = ".."
    · refine .inr (.inl ⟨hrelative, ?_⟩)
      rcases hrelative with rfl | rfl <;> rfl
    · rw [not_or] at hrelative
      refine .inr (.inr ⟨hempty, hrelative.1, hrelative.2, ?_⟩)
      simp [segmentFault?, hempty, hrelative]

theorem segmentFault?_eq_none_iff : segmentFault? s = none ↔ IsSegment s := by
  have hchars : (s.toList.find? fun c => !isNameChar c) = none ↔
      ∀ c ∈ s.toList, IsSegmentChar c := by
    simp [List.find?_eq_none, isNameChar_iff]
  rcases segmentFault?_cases s with ⟨hs, hfault⟩ | ⟨hs, hfault⟩ | ⟨hempty, hdot, hdots, hfault⟩
  · rw [hfault]
    exact ⟨nofun, fun h => absurd hs h.nonempty⟩
  · rw [hfault]
    refine ⟨nofun, fun h => ?_⟩
    rcases hs with hs | hs
    · exact absurd hs h.notDot
    · exact absurd hs h.notDots
  · rw [hfault, Option.map_eq_none_iff, hchars]
    exact ⟨fun h => ⟨hempty, hdot, hdots, h⟩, fun h => h.chars⟩

instance : DecidablePred IsSegment := fun _ => decidable_of_iff _ segmentFault?_eq_none_iff

theorem badSegment_of_segmentFault? (h : segmentFault? s = some fault) : BadSegment s fault := by
  rcases segmentFault?_cases s with ⟨rfl, hfault⟩ | ⟨hs, hfault⟩ | ⟨-, -, -, hfault⟩
  · cases hfault.symm.trans h
    exact .empty
  · cases hfault.symm.trans h
    rcases hs with rfl | rfl
    · exact .dot
    · exact .dots
  · rw [hfault] at h
    obtain ⟨c, hfind, rfl⟩ := Option.map_eq_some_iff.1 h
    obtain ⟨hc, front, back, hsplit, hfront⟩ := List.find?_eq_some_iff_append.1 hfind
    simp only [Bool.not_eq_true', Bool.not_not, isNameChar_iff, ← Bool.not_eq_true] at hc hfront
    exact .char front c back hsplit hfront hc

theorem segmentFault?_of_badSegment (h : BadSegment s fault) : segmentFault? s = some fault := by
  cases h with
  | empty => rfl
  | dot => rfl
  | dots => rfl
  | char front c back hsplit hfront hc =>
    have hmem : c ∈ s.toList := by
      rw [hsplit]
      exact List.mem_append_right _ List.mem_cons_self
    have hfind : (s.toList.find? fun c => !isNameChar c) = some c := by
      refine List.find?_eq_some_iff_append.2 ⟨?_, front, back, hsplit, fun d hd => ?_⟩
      · simpa [← isNameChar_iff] using hc
      · simpa [← isNameChar_iff] using hfront d hd
    have hother (t : String) (ht : t.toList.all isNameChar = true) : s ≠ t := by
      rintro rfl
      exact hc (isNameChar_iff.1 (List.all_eq_true.1 ht c hmem))
    rcases segmentFault?_cases s with ⟨hs, -⟩ | ⟨hs | hs, -⟩ | ⟨-, -, -, hfault⟩
    · exact absurd hs (hother "" rfl)
    · exact absurd hs (hother "." rfl)
    · exact absurd hs (hother ".." rfl)
    · rw [hfault, hfind, Option.map_some]

theorem segmentFault?_eq_some_iff : segmentFault? s = some fault ↔ BadSegment s fault :=
  ⟨badSegment_of_segmentFault?, segmentFault?_of_badSegment⟩

/-! ## Parts between slashes -/

theorem segments_eq_iff {parts : List String} :
    segments name = parts ↔
      parts ≠ [] ∧ (∀ part ∈ parts, '/' ∉ part.toList) ∧ "/".intercalate parts = name := by
  constructor
  · rintro rfl
    exact ⟨Text.split_ne_nil '/' name, fun part => Text.notMem_of_mem_split,
      Text.intercalate_split '/' name⟩
  · rintro ⟨hne, hparts, rfl⟩
    exact Text.split_intercalate hne hparts

theorem isServiceName_iff : IsServiceName name ↔ ∀ part ∈ segments name, IsSegment part := by
  constructor
  · rintro ⟨parts, hne, hparts, hname⟩
    have hsegments : segments name = parts :=
      segments_eq_iff.2 ⟨hne, fun part hpart => (hparts part hpart).notMem_slash, hname⟩
    rwa [hsegments]
  · intro h
    obtain ⟨hne, -, hname⟩ := segments_eq_iff.1 (Eq.refl (segments name))
    exact ⟨segments name, hne, h, hname⟩

theorem firstBad_iff :
    FirstBad name fault ↔ (segments name).findSome? segmentFault? = some fault := by
  rw [List.findSome?_eq_some_iff]
  simp only [segmentFault?_eq_some_iff, segmentFault?_eq_none_iff, segments_eq_iff]
  constructor
  · rintro ⟨before, part, after, hname, hbefore, hafter, hbad⟩
    have hslash : ∀ p ∈ before ++ part :: after, '/' ∉ p.toList :=
      List.forall_mem_append.2 ⟨fun earlier h => (hbefore earlier h).notMem_slash, hafter⟩
    exact ⟨before, part, after, ⟨by simp, hslash, hname⟩, hbad, hbefore⟩
  · rintro ⟨before, part, after, ⟨-, hslash, hname⟩, hbad, hbefore⟩
    exact ⟨before, part, after, hname, hbefore, (List.forall_mem_append.1 hslash).2, hbad⟩

instance : DecidablePred IsServiceName := fun _ => decidable_of_iff _ isServiceName_iff.symm

instance : Decidable (FirstBad name fault) := decidable_of_iff _ firstBad_iff.symm

theorem firstBad_of_not_isServiceName (h : ¬ IsServiceName name) : ∃ fault, FirstBad name fault := by
  rw [isServiceName_iff] at h
  cases hfault : (segments name).findSome? segmentFault? with
  | some fault => exact ⟨fault, firstBad_iff.2 hfault⟩
  | none =>
    refine absurd (fun part hpart => ?_) h
    exact segmentFault?_eq_none_iff.1 (List.findSome?_eq_none_iff.1 hfault part hpart)

/-! ## Checking -/

theorem fault?_of_long (h : 2048 < name.utf8ByteSize) : fault? name = some .tooLong := by
  have hne : name ≠ "" := by
    rintro rfl
    exact absurd h (by decide)
  simp [fault?, maxBytes, hne, h]

theorem fault?_of_short (hne : name ≠ "") (h : name.utf8ByteSize ≤ 2048) :
    fault? name = (segments name).findSome? segmentFault? := by
  simp [fault?, maxBytes, hne, Nat.not_lt.2 h]

theorem fault?_eq_none_iff :
    fault? name = none ↔ name.utf8ByteSize ≤ 2048 ∧ IsServiceName name := by
  by_cases hlong : 2048 < name.utf8ByteSize
  · rw [fault?_of_long hlong]
    exact ⟨nofun, fun h => absurd h.1 (Nat.not_le.2 hlong)⟩
  · by_cases hempty : name = ""
    · subst hempty
      refine ⟨nofun, fun h => ?_⟩
      exact absurd rfl (isServiceName_iff.1 h.2 "" List.mem_cons_self).nonempty
    · rw [fault?_of_short hempty (Nat.not_lt.1 hlong), List.findSome?_eq_none_iff, isServiceName_iff]
      simp only [segmentFault?_eq_none_iff]
      exact ⟨fun h => ⟨Nat.not_lt.1 hlong, h⟩, fun h => h.2⟩

theorem check_of_fault (h : fault? name = some fault) :
    check name = .error (.invalidService name fault.reason) := by
  rw [check, h]

theorem check_eq_ok_iff :
    check name = .ok () ↔ name.utf8ByteSize ≤ 2048 ∧ IsServiceName name := by
  rw [← fault?_eq_none_iff, check]
  cases fault? name with
  | none => exact ⟨fun _ => rfl, fun _ => rfl⟩
  | some fault => exact ⟨nofun, nofun⟩

/-- **Just the service names of at most 2048 bytes are accepted.** Of the other texts the reason is
what is wrong with the first part that is no segment, if their length is not to blame. -/
theorem check_grammar (name : String) :
    (check name = .ok () ↔ name.utf8ByteSize ≤ 2048 ∧ IsServiceName name) ∧
    (name ≠ "" → name.utf8ByteSize ≤ 2048 → ¬ IsServiceName name →
      ∃ fault, (∀ other, FirstBad name other ↔ other = fault) ∧
        check name = .error (.invalidService name fault.reason)) ∧
    (2048 < name.utf8ByteSize → check name = .error (.invalidService name Fault.tooLong.reason)) ∧
    (name = "" → check name = .error (.invalidService name Fault.empty.reason)) := by
  refine ⟨check_eq_ok_iff, fun hne hshort hbad => ?_, fun hlong => ?_, ?_⟩
  · obtain ⟨fault, hfirst⟩ := firstBad_of_not_isServiceName hbad
    have hfault : (segments name).findSome? segmentFault? = some fault := firstBad_iff.1 hfirst
    refine ⟨fault, fun other => ?_, check_of_fault ?_⟩
    · rw [firstBad_iff, hfault, Option.some.injEq, eq_comm]
    · rw [fault?_of_short hne hshort, hfault]
  · exact check_of_fault (fault?_of_long hlong)
  · rintro rfl
    rfl

theorem utf8ByteSize_letters (n : Nat) : (String.ofList (List.replicate n 'a')).utf8ByteSize = n := by
  rw [String.utf8ByteSize_ofList]
  induction n with
  | zero => rfl
  | succ n ih =>
    rw [List.replicate_succ, String.utf8Len_cons, ih]
    rfl

theorem check_grammar_each_outcome :
    check "team/.../api.v2" = .ok () ∧
    check "a//b$" =
      .error (.invalidService "a//b$" "service name cannot contain empty path segments") ∧
    check "a/ünï/../d" = .error (.invalidService "a/ünï/../d" "invalid character 'ü'") ∧
    (∃ letters, check letters = .error (.invalidService letters "service name is too long") ∧
      letters.utf8ByteSize = 2049) ∧
    check "" = .error (.invalidService "" "service name cannot be empty") := by
  refine ⟨?_, ?_, ?_, ?_, ?_⟩
  · exact (check_grammar "team/.../api.v2").1.2 (by decide +kernel)
  · obtain ⟨fault, hfirst, hcheck⟩ := (check_grammar "a//b$").2.1 (by decide +kernel)
      (by decide +kernel) (by decide +kernel)
    have hfault : Fault.emptySegment = fault := (hfirst _).1 (by decide +kernel)
    rw [hcheck, ← hfault]
    rfl
  · obtain ⟨fault, hfirst, hcheck⟩ := (check_grammar "a/ünï/../d").2.1 (by decide +kernel)
      (by decide +kernel) (by decide +kernel)
    have hfault : Fault.invalidChar 'ü' = fault := (hfirst _).1 (by decide +kernel)
    rw [hcheck, ← hfault]
    rfl
  · have hsize := utf8ByteSize_letters 2049
    exact ⟨_, (check_grammar _).2.2.1 (by rw [hsize]; decide), hsize⟩
  · exact (check_grammar "").2.2.2 rfl

end EnvInject.Service
