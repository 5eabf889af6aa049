import EnvInject.Proofs.Secret.Collecting

/-!
# Collecting in parts and in another order

Entries that follow each other are collected as their parts are, and the secrets of the later part
prevail. Whether entries are accepted does not depend on their order; what becomes of them does where
two parts give one name different values.

* `SecretSet.get?_ofPairs_last` : of several values of a name the last one counts;
* `SecretSet.extend_comm_iff` : when two sets may be added in either order;
* `collect_eq_ok_iff`, `mem_names_of_collect` : what is collected under either key mode;
* `collect_append` : the parts of what was collected;
* `collect_perm`, `collect_perm_of_nodup` : the entries in another order;
* `collect_any_order` : entries with distinct paths, whatever their order.
-/

namespace EnvInject

namespace SecretSet

theorem get?_extendPairs_last (set : SecretSet) (pairs : List (String × String)) (name : String) :
    (set.extendPairs pairs).get? name = (pairs.reverse.lookup name).or (set.get? name) := by
  induction pairs generalizing set with
  | nil => rfl
  | cons p rest ih =>
    obtain ⟨n, v⟩ := p
    have hlast : ([(n, v)] : List (String × String)).lookup name =
        if name = n then some v else none := by
      rw [Pairs.lookup_cons, List.lookup_nil]
    rw [extendPairs, List.foldl_cons, ← extendPairs, ih, get?_insert, List.reverse_cons,
      List.lookup_append, hlast, Option.or_assoc]
    by_cases hn : name = n <;> simp [hn]

theorem get?_ofPairs_last (pairs : List (String × String)) (name : String) :
    (ofPairs pairs).get? name = pairs.reverse.lookup name := by
  rw [ofPairs, get?_extendPairs_last, get?_empty, Option.or_none]

theorem ofPairs_append (xs ys : List (String × String)) :
    ofPairs (xs ++ ys) = (ofPairs xs).extend (ofPairs ys) := by
  apply ext_get?
  intro name
  rw [get?_extend, get?_ofPairs_last, get?_ofPairs_last, get?_ofPairs_last, List.reverse_append,
    List.lookup_append]

section Extend
variable (a b c : SecretSet)

theorem extend_assoc : a.extend (b.extend c) = (a.extend b).extend c := by
  apply ext_get?
  intro name
  rw [get?_extend, get?_extend, get?_extend, get?_extend, Option.or_assoc]

theorem names_extend_comm : ((a.extend b).extend c).names = ((a.extend c).extend b).names := by
  apply names_ext
  intro name
  rw [mem_names_iff, mem_names_iff, get?_extend, get?_extend, get?_extend, get?_extend]
  cases b.get? name <;> cases c.get? name <;> simp

/-- Two sets may be added in either order just if they agree where both have a name. -/
theorem extend_comm_iff :
    (a.extend b).extend c = (a.extend c).extend b ↔
      ∀ name v w, b.get? name = some v → c.get? name = some w → v = w := by
  constructor
  · intro h name v w hv hw
    have hname : ((a.extend b).extend c).get? name = ((a.extend c).extend b).get? name := by rw [h]
    rw [get?_extend, get?_extend, get?_extend, get?_extend, hv, hw] at hname
    exact (Option.some.inj hname).symm
  · intro h
    apply ext_get?
    intro name
    rw [get?_extend, get?_extend, get?_extend, get?_extend]
    cases hv : b.get? name with
    | none => simp
    | some v =>
      cases hw : c.get? name with
      | none => simp
      | some w => simp [h name v w hv hw]

end Extend

end SecretSet

namespace Secret

def entryUnder : KeyMode → Entry → String × String
  | .paths, entry => named entry
  | .verbatim, entry => entry

theorem map_entryUnder_verbatim (entries : List Entry) :
    entries.map (entryUnder .verbatim) = entries := List.map_id entries

variable {service : String} {mode : KeyMode} {entries entries' xs ys : List Entry}
  {set : SecretSet}

theorem collect_eq_ok_iff :
    collect service mode entries = .ok set ↔
      (mode = .paths → Accepted (entries.map Prod.fst)) ∧
        set = .ofPairs (entries.map (entryUnder mode)) := by
  cases mode with
  | verbatim =>
    rw [map_entryUnder_verbatim, collect, Except.ok.injEq]
    constructor
    · intro h
      refine ⟨fun hmode => ?_, h.symm⟩
      cases hmode
    · intro h
      exact h.2.symm
  | paths =>
    rw [collect_paths_eq_ok_iff]
    exact and_congr_left fun _ => ⟨fun h _ => h, fun h => h rfl⟩

theorem mem_names_collect_iff (h : collect service mode entries = .ok set) {name : String} :
    name ∈ set.names ↔ ∃ entry ∈ entries, (entryUnder mode entry).1 = name := by
  obtain ⟨-, rfl⟩ := collect_eq_ok_iff.1 h
  rw [SecretSet.mem_names_ofPairs, List.map_map, List.mem_map]
  rfl

/-- A name of a set is the key of an entry, or the name that its path stands for. -/
theorem mem_names_of_collect (h : collect service mode entries = .ok set) {name : String}
    (hname : name ∈ set.names) :
    ∃ entry ∈ entries, (mode = .verbatim ∧ name = entry.1) ∨
      (mode = .paths ∧ name = variableName entry.1 ∧ name ≠ "") := by
  obtain ⟨entry, hentry, rfl⟩ := (mem_names_collect_iff h).1 hname
  refine ⟨entry, hentry, ?_⟩
  cases mode with
  | verbatim => exact .inl ⟨rfl, rfl⟩
  | paths =>
    have haccepted : Accepted (entries.map Prod.fst) := (collect_eq_ok_iff.1 h).1 rfl
    exact .inr ⟨rfl, rfl, haccepted.named _ (List.mem_map_of_mem hentry)⟩

theorem collect_append (h : collect service mode (xs ++ ys) = .ok set) :
    ∃ a b, collect service mode xs = .ok a ∧ collect service mode ys = .ok b ∧
      set = a.extend b := by
  obtain ⟨haccepted, rfl⟩ := collect_eq_ok_iff.1 h
  rw [List.map_append] at haccepted
  refine ⟨.ofPairs (xs.map (entryUnder mode)), .ofPairs (ys.map (entryUnder mode)), ?_, ?_, ?_⟩
  · refine collect_eq_ok_iff.2 ⟨fun hmode => ?_, rfl⟩
    exact (haccepted hmode).of_subset (List.subset_append_left _ _)
  · refine collect_eq_ok_iff.2 ⟨fun hmode => ?_, rfl⟩
    exact (haccepted hmode).of_subset (List.subset_append_right _ _)
  · rw [List.map_append, SecretSet.ofPairs_append]

/-- The order of the entries does not decide whether they are accepted. -/
theorem collect_perm (hperm : entries.Perm entries')
    (h : collect service mode entries = .ok set) :
    ∃ set', collect service mode entries' = .ok set' := by
  refine ⟨_, collect_eq_ok_iff.2 ⟨fun hmode => ?_, rfl⟩⟩
  have haccepted := (collect_eq_ok_iff.1 h).1 hmode
  exact haccepted.of_subset (hperm.symm.map Prod.fst).subset

theorem nodup_names_of_accepted (haccepted : mode = .paths → Accepted (entries.map Prod.fst))
    (hpaths : (entries.map Prod.fst).Nodup) :
    ((entries.map (entryUnder mode)).map Prod.fst).Nodup := by
  cases mode with
  | verbatim =>
    rwa [map_entryUnder_verbatim]
  | paths =>
    have hnames : (entries.map (entryUnder .paths)).map Prod.fst =
        (entries.map Prod.fst).map variableName := by
      rw [List.map_map, List.map_map]
      rfl
    rw [hnames]
    exact (haccepted rfl).nodup_names_iff.2 hpaths

/-- The secrets of distinct paths are their entries. -/
theorem get?_of_collect (hpaths : (entries.map Prod.fst).Nodup)
    (h : collect service mode entries = .ok set) (name value : String) :
    set.get? name = some value ↔ (name, value) ∈ entries.map (entryUnder mode) := by
  obtain ⟨haccepted, rfl⟩ := collect_eq_ok_iff.1 h
  have hnames := nodup_names_of_accepted haccepted hpaths
  rw [SecretSet.get?_ofPairs hnames, Pairs.lookup_eq_some_iff hnames]

/-- Nor does it decide what becomes of them, if their paths are distinct. -/
theorem collect_perm_of_nodup (hperm : entries.Perm entries')
    (hpaths : (entries.map Prod.fst).Nodup) (h : collect service mode entries = .ok set) :
    collect service mode entries' = .ok set := by
  obtain ⟨set', h'⟩ := collect_perm hperm h
  have hpaths' : (entries'.map Prod.fst).Nodup := (hperm.map Prod.fst).nodup_iff.1 hpaths
  have hset : set = set' := by
    refine SecretSet.ext_get? fun name => Option.ext fun value => ?_
    rw [get?_of_collect hpaths h, get?_of_collect hpaths' h', (hperm.map _).mem_iff]
  rw [hset, h']

theorem accepted_iff_of_nodup {paths : List String} (h : paths.Nodup) :
    Accepted paths ↔ "" ∉ paths.map variableName ∧ (paths.map variableName).Nodup := by
  constructor
  · intro haccepted
    refine ⟨fun hempty => ?_, haccepted.nodup_names_iff.2 h⟩
    obtain ⟨p, hp, hname⟩ := List.mem_map.1 hempty
    exact haccepted.named p hp hname
  · rintro ⟨hempty, hnames⟩
    refine ⟨fun p hp hname => hempty ?_, fun p hp q hq hsame => ?_⟩
    · rw [← hname]
      exact List.mem_map_of_mem hp
    · exact List.inj_on_of_nodup_map hnames hp hq hsame

/-- **Entries with distinct paths are collected alike in any order**: if their names are distinct too
and none is empty, and then as they are. -/
theorem collect_any_order (service : String) (mode : KeyMode) (hperm : entries.Perm entries')
    (hpaths : (entries.map Prod.fst).Nodup) :
    (∀ set, collect service mode entries = .ok set ↔ collect service mode entries' = .ok set) ∧
    ((∃ set, collect service mode entries = .ok set) ↔
      (mode = .paths → "" ∉ (entries.map Prod.fst).map variableName ∧
        ((entries.map Prod.fst).map variableName).Nodup)) ∧
    ∀ set, collect service mode entries = .ok set → ∀ name value,
      set.get? name = some value ↔ (name, value) ∈ entries.map (entryUnder mode) := by
  have hpaths' : (entries'.map Prod.fst).Nodup := (hperm.map Prod.fst).nodup_iff.1 hpaths
  refine ⟨fun set => ?_, ?_, fun set => get?_of_collect hpaths⟩
  · exact ⟨collect_perm_of_nodup hperm hpaths, collect_perm_of_nodup hperm.symm hpaths'⟩
  · rw [← accepted_iff_of_nodup hpaths]
    constructor
    · rintro ⟨set, hset⟩
      exact (collect_eq_ok_iff.1 hset).1
    · intro haccepted
      exact ⟨_, collect_eq_ok_iff.2 ⟨haccepted, rfl⟩⟩

theorem collect_any_order_three_entries :
    (∃ set, collect "app" .paths [("tls", "on"), ("db/key", "one"), ("/a.b", "x")] = .ok set ∧
      collect "app" .paths [("/a.b", "x"), ("tls", "on"), ("db/key", "one")] = .ok set ∧
      set.get? "DB_KEY" = some "one") ∧
    ∀ set, collect "app" .paths [("db-key", "two"), ("tls", "on"), ("db/key", "one")] ≠ .ok set := by
  have hrotated : [("tls", "on"), ("db/key", "one"), ("/a.b", "x")].Perm
      [("/a.b", "x"), ("tls", "on"), ("db/key", "one")] := by decide
  constructor
  · obtain ⟨horder, haccepted, hvalues⟩ := collect_any_order "app" .paths hrotated (by decide)
    obtain ⟨set, hset⟩ := haccepted.2 fun _ => by decide
    exact ⟨set, hset, (horder set).1 hset, (hvalues set hset _ _).2 (by decide)⟩
  · intro set hset
    have hclash := (collect_any_order "app" .paths (List.Perm.refl _) (by decide)).2.1.1 ⟨set, hset⟩
    exact absurd (hclash rfl).2 (by decide)

end Secret

end EnvInject
