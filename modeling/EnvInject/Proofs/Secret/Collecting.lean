import EnvInject.Secret.Collect
import Mathlib.Data.List.Perm.Basic
import Mathlib.Data.List.Nodup

/-!
# What collecting keeps and refuses

Collecting under path keys accepts the entries whose paths all stand for some name and never two
different ones for the same name; the set then holds what setting them one after the other gives.
Otherwise the first entry that breaks this, after the ones before it, is the error.

* `SecretSet.ext_get?` : the secrets by name make up the set;
* `SecretSet.length_ofPairs_eq_iff`, `get?_ofPairs` : a set of pairs loses none of them just if
  their names are distinct;
* `Unambiguous` : no two paths of a list stand for one name;
* `collect_paths_eq_ok_iff` : which entries are accepted, and what becomes of them;
* `collect_paths_eq_error` : the error of the others.
-/

namespace EnvInject

namespace SecretSet

theorem mem_names_iff (set : SecretSet) (name : String) :
    name ∈ set.names ↔ set.get? name ≠ none := by
  rw [Ne, get?_eq_none_iff, Decidable.not_not]

theorem mem_names_insert (set : SecretSet) (name value k : String) :
    k ∈ (set.insert name value).names ↔ k = name ∨ k ∈ set.names := by
  rw [mem_names_iff, mem_names_iff, get?_insert]
  by_cases h : k = name <;> simp [h]

theorem mem_names_extendPairs (set : SecretSet) (pairs : List (String × String)) (k : String) :
    k ∈ (set.extendPairs pairs).names ↔ k ∈ set.names ∨ k ∈ pairs.map Prod.fst := by
  induction pairs generalizing set with
  | nil => simp [extendPairs]
  | cons p rest ih =>
    rw [extendPairs, List.foldl_cons, ← extendPairs, ih, mem_names_insert, List.map_cons,
      List.mem_cons]
    tauto

theorem mem_names_ofPairs (pairs : List (String × String)) (k : String) :
    k ∈ (ofPairs pairs).names ↔ k ∈ pairs.map Prod.fst := by
  rw [ofPairs, mem_names_extendPairs]
  simp [names, empty]

/-- Sets with the same names have them in the same order. -/
theorem names_ext {a b : SecretSet} (h : ∀ name, name ∈ a.names ↔ name ∈ b.names) :
    a.names = b.names := by
  have hperm : a.names.Perm b.names :=
    (List.perm_ext_iff_of_nodup a.nodup_names b.nodup_names).2 h
  exact hperm.eq_of_pairwise (fun x y _ _ hxy hyx => absurd hyx (String.lt_asymm hxy)) a.ascending
    b.ascending

theorem ext_get? {a b : SecretSet} (h : ∀ name, a.get? name = b.get? name) : a = b := by
  have hnames : a.names = b.names := by
    apply names_ext
    intro name
    rw [mem_names_iff, mem_names_iff, h]
  have hentries : a.entries = b.entries := Pairs.ext_lookup hnames a.nodup_names h
  obtain ⟨entries, hascending⟩ := a
  obtain ⟨entries', hascending'⟩ := b
  obtain rfl : entries = entries' := hentries
  rfl

theorem get?_ofPairs {pairs : List (String × String)} (h : (pairs.map Prod.fst).Nodup)
    (name : String) : (ofPairs pairs).get? name = pairs.lookup name := by
  rw [ofPairs, get?_extendPairs _ h, get?_empty, Option.or_none]

theorem length_ofPairs_eq_iff (pairs : List (String × String)) :
    (ofPairs pairs).entries.length = pairs.length ↔ (pairs.map Prod.fst).Nodup := by
  have hsub : (ofPairs pairs).names ⊆ pairs.map Prod.fst :=
    fun k hk => (mem_names_ofPairs pairs k).1 hk
  have hlength : (ofPairs pairs).names.length = (ofPairs pairs).entries.length :=
    List.length_map _
  constructor
  · intro h
    -- as many distinct names as pairs: then no name of the pairs is left to repeat another
    have hperm : (ofPairs pairs).names.Perm (pairs.map Prod.fst) :=
      (List.subperm_of_subset (nodup_names _) hsub).perm_of_length_le (by simp [hlength, h])
    exact hperm.nodup_iff.1 (nodup_names _)
  · intro h
    have hperm : (ofPairs pairs).names.Perm (pairs.map Prod.fst) :=
      (List.perm_ext_iff_of_nodup (nodup_names _) h).2 (mem_names_ofPairs pairs)
    rw [← hlength, hperm.length_eq, List.length_map]

end SecretSet

namespace Secret

/-- An entry under the variable name of its path. -/
def named (entry : Entry) : String × String := (variableName entry.1, entry.2)

/-- No two of the paths stand for one name. -/
def Unambiguous (paths : List String) : Prop :=
  ∀ p ∈ paths, ∀ q ∈ paths, variableName p = variableName q → p = q

/-- What the origins say when the paths before were `seen`. -/
def Tracks (origins : List (String × String)) (seen : List String) : Prop :=
  ∀ name first, origins.lookup name = some first ↔ first ∈ seen ∧ variableName first = name

theorem Tracks.nil : Tracks [] [] := by
  intro name first
  simp

theorem Tracks.unambiguous {origins : List (String × String)} {seen : List String}
    (h : Tracks origins seen) : Unambiguous seen := by
  intro p hp q hq hpq
  have hfirst := (h (variableName q) p).2 ⟨hp, hpq⟩
  have hsecond := (h (variableName q) q).2 ⟨hq, rfl⟩
  exact Option.some.inj (hfirst.symm.trans hsecond)

theorem Tracks.notMem {origins : List (String × String)} {seen : List String} {name : String}
    (h : Tracks origins seen) (hnone : origins.lookup name = none) :
    ∀ p ∈ seen, variableName p ≠ name := by
  intro p hp hname
  have hsome := (h name p).2 ⟨hp, hname⟩
  rw [hnone] at hsome
  cases hsome

/-- A path whose name is new is the origin of its name from then on. -/
theorem Tracks.cons {origins : List (String × String)} {seen : List String} {path : String}
    (h : Tracks origins seen) (hnone : origins.lookup (variableName path) = none) :
    Tracks ((variableName path, path) :: origins) (path :: seen) := by
  intro name first
  rw [Pairs.lookup_cons, List.mem_cons]
  by_cases hname : name = variableName path
  · rw [if_pos hname, Option.some.injEq]
    constructor
    · rintro rfl
      exact ⟨.inl rfl, hname.symm⟩
    · rintro ⟨rfl | hfirst, hsame⟩
      · rfl
      · exact absurd (hsame.trans hname) (h.notMem hnone first hfirst)
  · rw [if_neg hname, h]
    constructor
    · rintro ⟨hfirst, hsame⟩
      exact ⟨.inr hfirst, hsame⟩
    · rintro ⟨rfl | hfirst, hsame⟩
      · exact absurd hsame.symm hname
      · exact ⟨hfirst, hsame⟩

/-- A path that was seen before is no news. -/
theorem Tracks.again {origins : List (String × String)} {seen : List String} {path : String}
    (h : Tracks origins seen) (hsome : origins.lookup (variableName path) = some path) :
    Tracks origins (path :: seen) := by
  have hseen : path ∈ seen := ((h _ _).1 hsome).1
  intro name first
  rw [h, List.mem_cons]
  constructor
  · rintro ⟨hfirst, hsame⟩
    exact ⟨.inr hfirst, hsame⟩
  · rintro ⟨rfl | hfirst, hsame⟩
    · exact ⟨hseen, hsame⟩
    · exact ⟨hfirst, hsame⟩

/-- Each of the paths stands for some name, and no two of them for the same one. -/
structure Accepted (paths : List String) : Prop where
  named : ∀ p ∈ paths, variableName p ≠ ""
  unambiguous : Unambiguous paths

theorem Accepted.of_subset {paths paths' : List String} (h : Accepted paths)
    (hsub : paths' ⊆ paths) : Accepted paths' where
  named p hp := h.named p (hsub hp)
  unambiguous p hp q hq := h.unambiguous p (hsub hp) q (hsub hq)

theorem Accepted.nodup_names_iff {paths : List String} (h : Accepted paths) :
    (paths.map variableName).Nodup ↔ paths.Nodup :=
  ⟨.of_map _, fun hnodup => (List.nodup_map_iff_inj_on hnodup).2 h.unambiguous⟩

theorem accepted_map_iff {α : Type} (path : α → String) (items : List α) :
    Accepted (items.map path) ↔
      (∀ x ∈ items, variableName (path x) ≠ "") ∧
      ∀ x ∈ items, ∀ y ∈ items, variableName (path x) = variableName (path y) →
        path x = path y := by
  constructor
  · rintro ⟨hnamed, hunambiguous⟩
    exact ⟨fun x hx => hnamed _ (List.mem_map_of_mem hx), fun x hx y hy =>
      hunambiguous _ (List.mem_map_of_mem hx) _ (List.mem_map_of_mem hy)⟩
  · rintro ⟨hnamed, hsame⟩
    refine ⟨List.forall_mem_map.2 hnamed, ?_⟩
    exact List.forall_mem_map.2 fun x hx => List.forall_mem_map.2 fun y hy => hsame x hx y hy

/-- Why a path cannot follow the paths `seen`, as an error. -/
inductive Breaks (service : String) (seen : List String) (path : String) : StoreError → Prop where
  /-- It stands for no name. -/
  | nameless (hname : variableName path = "") :
    Breaks service seen path
      (.malformed service s!"secret path '{path}' normalizes to an empty name")
  /-- Another path stands for its name. -/
  | clash (first : String) (hname : variableName path ≠ "") (hseen : first ∈ seen)
    (hsame : variableName first = variableName path) (hne : first ≠ path) :
    Breaks service seen path (.nameClash service (variableName path) first path)

theorem Breaks.mono {service path : String} {seen seen' : List String} {e : StoreError}
    (h : Breaks service seen path e) (hsub : seen ⊆ seen') : Breaks service seen' path e := by
  cases h with
  | nameless hname => exact .nameless hname
  | clash first hname hseen hsame hne => exact .clash first hname (hsub hseen) hsame hne

theorem Breaks.not_accepted {service path : String} {seen paths : List String} {e : StoreError}
    (h : Breaks service seen path e) (hseen : seen ⊆ paths) (hpath : path ∈ paths) :
    ¬ Accepted paths := by
  intro haccepted
  cases h with
  | nameless hname => exact haccepted.named path hpath hname
  | clash first _ hfirst hsame hne =>
    exact hne (haccepted.unambiguous first (hseen hfirst) path hpath hsame)

/-- One entry either breaks the rule or is set under its name. -/
theorem collectPaths_cons {service : String} {origins : List (String × String)}
    {seen : List String} (h : Tracks origins seen) (path value : String) :
    (∃ e, Breaks service seen path e ∧
      ∀ set rest, collectPaths service origins set ((path, value) :: rest) = .error e) ∨
    variableName path ≠ "" ∧ ∃ origins', Tracks origins' (path :: seen) ∧
      ∀ set rest, collectPaths service origins set ((path, value) :: rest) =
        collectPaths service origins' (set.insert (variableName path) value) rest := by
  by_cases hname : variableName path = ""
  · refine .inl ⟨_, .nameless hname, fun set rest => ?_⟩
    simp [collectPaths, hname]
  · have hnonempty : (variableName path).isEmpty = false := by simpa using hname
    cases hlookup : origins.lookup (variableName path) with
    | none =>
      refine .inr ⟨hname, _, h.cons hlookup, fun set rest => ?_⟩
      simp [collectPaths, hnonempty, hlookup]
    | some first =>
      by_cases hfirst : first = path
      · subst hfirst
        refine .inr ⟨hname, _, h.again hlookup, fun set rest => ?_⟩
        simp [collectPaths, hnonempty, hlookup]
      · obtain ⟨hseen, hsame⟩ := (h _ _).1 hlookup
        refine .inl ⟨_, .clash first hname hseen hsame hfirst, fun set rest => ?_⟩
        simp [collectPaths, hnonempty, hlookup, hfirst]

/-- Collecting either sets all entries or ends at the first one that breaks the rule. -/
theorem collectPaths_cases {service : String} {origins : List (String × String)}
    {seen : List String} (htracks : Tracks origins seen) (hseen : Accepted seen)
    (set : SecretSet) (entries : List Entry) :
    (Accepted (seen ++ entries.map Prod.fst) ∧
      collectPaths service origins set entries = .ok (set.extendPairs (entries.map named))) ∨
    ∃ before path value after e, entries = before ++ (path, value) :: after ∧
      Accepted (seen ++ before.map Prod.fst) ∧
      Breaks service (seen ++ before.map Prod.fst) path e ∧
      collectPaths service origins set entries = .error e := by
  induction entries generalizing origins seen set with
  | nil => exact .inl ⟨by simpa using hseen, rfl⟩
  | cons entry rest ih =>
    obtain ⟨path, value⟩ := entry
    rcases collectPaths_cons htracks path value with
      ⟨e, hbreaks, herror⟩ | ⟨hname, origins', h', hgoes⟩
    · refine .inr ⟨[], path, value, rest, e, rfl, by simpa using hseen, ?_, herror set rest⟩
      simpa using hbreaks
    · have hseen' : Accepted (path :: seen) :=
        ⟨List.forall_mem_cons.2 ⟨hname, hseen.named⟩, h'.unambiguous⟩
      rw [hgoes]
      -- the path moves from the entries to the ones seen, so the same paths are there
      have hmove (paths : List String) : (seen ++ path :: paths).Perm (path :: seen ++ paths) :=
        List.perm_middle
      rcases ih h' hseen' (set.insert (variableName path) value) with
        ⟨haccepted, hok⟩ | ⟨before, p, v, after, e, rfl, haccepted, hbreaks, herror⟩
      · exact .inl ⟨haccepted.of_subset (hmove _).subset, hok⟩
      · exact .inr ⟨(path, value) :: before, p, v, after, e, rfl,
          haccepted.of_subset (hmove _).subset, hbreaks.mono (hmove _).symm.subset, herror⟩

section Collect
variable {service : String} {entries : List Entry}

theorem collect_paths_eq_ok_iff {set : SecretSet} :
    collect service .paths entries = .ok set ↔
      Accepted (entries.map Prod.fst) ∧ set = .ofPairs (entries.map named) := by
  have hnil : Accepted [] := ⟨nofun, nofun⟩
  rcases collectPaths_cases Tracks.nil hnil .empty entries with
    ⟨haccepted, hok⟩ | ⟨before, path, value, after, e, hsplit, -, hbreaks, herror⟩
  · rw [collect, hok, Except.ok.injEq]
    exact ⟨fun h => ⟨haccepted, h.symm⟩, fun h => h.2.symm⟩
  · rw [collect, herror]
    refine ⟨nofun, fun h => absurd h.1 (hbreaks.not_accepted ?_ ?_)⟩
    · rw [hsplit]
      simp
    · rw [hsplit]
      simp

theorem collect_paths_eq_error {e : StoreError} (h : collect service .paths entries = .error e) :
    ∃ before path value after, entries = before ++ (path, value) :: after ∧
      Accepted (before.map Prod.fst) ∧ Breaks service (before.map Prod.fst) path e := by
  have hnil : Accepted [] := ⟨nofun, nofun⟩
  rcases collectPaths_cases Tracks.nil hnil .empty entries with
    ⟨-, hok⟩ | ⟨before, path, value, after, e', hsplit, haccepted, hbreaks, herror⟩
  · rw [collect, hok] at h
    cases h
  · rw [collect, herror] at h
    cases h
    exact ⟨before, path, value, after, hsplit, haccepted, hbreaks⟩

end Collect

end Secret

end EnvInject
