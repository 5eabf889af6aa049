import EnvInject.Proofs.Secret.Parts

/-!
# The outcome of collecting

Under path keys the outcome is decided by the entries in order. If each path stands for a name and
no two paths for one, every name has the value of its last entry. If not, the first entry that
breaks this tells the error, together with the entries before it.

* `Prevails` : the value that the last entry of a name has;
* `FirstBreach` : the first entry that breaks the rule, and its error (`firstBreach_unique`);
* `collect_paths_outcome` : which of the two it is, and what comes of it.
-/

namespace EnvInject

namespace Secret

variable {service : String} {entries : List Entry}

/-- The last entry whose path stands for `name` has this value. -/
def Prevails (entries : List Entry) (name value : String) : Prop :=
  ∃ before path after, entries = before ++ (path, value) :: after ∧ variableName path = name ∧
    ∀ entry ∈ after, variableName entry.1 ≠ name

theorem get?_ofPairs_named_iff (name value : String) :
    (SecretSet.ofPairs (entries.map named)).get? name = some value ↔
      Prevails entries name value := by
  rw [SecretSet.get?_ofPairs_last, Pairs.lookup_reverse_eq_some_iff]
  constructor
  · rintro ⟨before, after, hsplit, hfresh⟩
    obtain ⟨front, rest, rfl, rfl, hrest⟩ := List.map_eq_append_iff.1 hsplit
    obtain ⟨⟨path, v⟩, back, rfl, hhere, rfl⟩ := List.map_eq_cons_iff.1 hrest
    obtain ⟨rfl, rfl⟩ := Prod.mk.inj hhere
    exact ⟨front, path, back, rfl, rfl, fun entry hentry =>
      hfresh (named entry) (List.mem_map_of_mem hentry)⟩
  · rintro ⟨before, path, after, rfl, rfl, hfresh⟩
    refine ⟨before.map named, after.map named, List.map_append, fun p hp => ?_⟩
    obtain ⟨entry, hentry, rfl⟩ := List.mem_map.1 hp
    exact hfresh entry hentry

/-! ## The first entry that breaks the rule -/

/-- `e` is the error of the first entry that breaks the rule, after the accepted ones before it. -/
def FirstBreach (service : String) (entries : List Entry) (e : StoreError) : Prop :=
  ∃ before path value after, entries = before ++ (path, value) :: after ∧
    Accepted (before.map Prod.fst) ∧ Breaks service (before.map Prod.fst) path e

theorem FirstBreach.not_accepted {e : StoreError} (h : FirstBreach service entries e) :
    ¬ Accepted (entries.map Prod.fst) := by
  obtain ⟨before, path, value, after, rfl, -, hbreaks⟩ := h
  apply hbreaks.not_accepted
  · rw [List.map_append]
    exact List.subset_append_left _ _
  · simp

/-- Of accepted paths only one stands for a name, so a path breaks the rule in one way. -/
theorem Breaks.unique {seen : List String} {path : String} {e e' : StoreError}
    (hseen : Accepted seen) (h : Breaks service seen path e) (h' : Breaks service seen path e') :
    e = e' := by
  cases h with
  | nameless hname =>
    cases h' with
    | nameless _ => rfl
    | clash _ hname' => exact absurd hname hname'
  | clash first hname hfirst hsame =>
    cases h' with
    | nameless hname' => exact absurd hname' hname
    | clash first' _ hfirst' hsame' =>
      have heq : first = first' :=
        hseen.unambiguous first hfirst first' hfirst' (hsame.trans hsame'.symm)
      rw [heq]

/-- No accepted entries reach past an entry that breaks the rule. -/
theorem length_le_of_breaks {before before' after after' : List Entry} {path : String}
    {value : String} {e : StoreError} (hbreaks : Breaks service (before.map Prod.fst) path e)
    (haccepted : Accepted (before'.map Prod.fst))
    (hsplit : before ++ (path, value) :: after = before' ++ after') :
    before'.length ≤ before.length := by
  by_contra hlong
  have hwhole : before ++ [(path, value)] <+: before' ++ after' := by
    rw [← hsplit]
    exact ⟨after, by simp⟩
  have hprefix : before ++ [(path, value)] <+: before' := by
    refine List.prefix_of_prefix_length_le hwhole (List.prefix_append _ _) ?_
    rw [List.length_append, List.length_singleton]
    omega
  have hsub : (before ++ [(path, value)]).map Prod.fst ⊆ before'.map Prod.fst :=
    List.map_subset _ hprefix.subset
  rw [List.map_append] at hsub
  refine hbreaks.not_accepted (List.append_subset.1 hsub).1 ?_ haccepted
  exact (List.append_subset.1 hsub).2 (by simp)

theorem firstBreach_unique {e e' : StoreError} (h : FirstBreach service entries e)
    (h' : FirstBreach service entries e') : e = e' := by
  obtain ⟨before, path, value, after, rfl, haccepted, hbreaks⟩ := h
  obtain ⟨before', path', value', after', hsplit, haccepted', hbreaks'⟩ := h'
  have hlength : before.length = before'.length :=
    Nat.le_antisymm (length_le_of_breaks hbreaks' haccepted hsplit.symm)
      (length_le_of_breaks hbreaks haccepted' hsplit)
  obtain ⟨rfl, hrest⟩ := List.append_inj hsplit hlength
  cases hrest
  exact hbreaks.unique haccepted hbreaks'

/-- **Entries are collected just if each path stands for a name and no two paths for one**; a name
then has the value of its last entry. Otherwise the first entry that breaks this is the error. -/
theorem collect_paths_outcome (service : String) (entries : List Entry) :
    ((∃ set, collect service .paths entries = .ok set) ↔
      (∀ entry ∈ entries, variableName entry.1 ≠ "") ∧
      ∀ first ∈ entries, ∀ second ∈ entries,
        variableName first.1 = variableName second.1 → first.1 = second.1) ∧
    (∀ set, collect service .paths entries = .ok set →
      ∀ name value, set.get? name = some value ↔ Prevails entries name value) ∧
    ∀ e, collect service .paths entries = .error e ↔ FirstBreach service entries e := by
  refine ⟨?_, fun set hset name value => ?_, fun e => ⟨collect_paths_eq_error, fun hbreach => ?_⟩⟩
  · rw [← accepted_map_iff Prod.fst entries]
    constructor
    · rintro ⟨set, hset⟩
      exact (collect_paths_eq_ok_iff.1 hset).1
    · intro h
      exact ⟨_, collect_paths_eq_ok_iff.2 ⟨h, rfl⟩⟩
  · obtain ⟨-, rfl⟩ := collect_paths_eq_ok_iff.1 hset
    exact get?_ofPairs_named_iff name value
  · cases hcollect : collect service .paths entries with
    | ok set => exact absurd (collect_paths_eq_ok_iff.1 hcollect).1 hbreach.not_accepted
    | error e' => rw [firstBreach_unique hbreach (collect_paths_eq_error hcollect)]

theorem collect_paths_outcome_repeated_path :
    (∃ set, collect "app" .paths [("db/key", "one"), ("/tls", "on"), ("db/key", "two")] = .ok set ∧
      set.get? "DB_KEY" = some "two") ∧
    collect "app" .paths
        [("db/key", "one"), ("db/key", "two"), ("db-key", "three"), ("/", "four")] =
      .error (.nameClash "app" "DB_KEY" "db/key" "db-key") := by
  constructor
  · obtain ⟨hok, hvalues, -⟩ :=
      collect_paths_outcome "app" [("db/key", "one"), ("/tls", "on"), ("db/key", "two")]
    obtain ⟨set, hset⟩ := hok.2 (by decide)
    refine ⟨set, hset, (hvalues set hset "DB_KEY" "two").2 ?_⟩
    exact ⟨[("db/key", "one"), ("/tls", "on")], "db/key", [], rfl, by decide, nofun⟩
  · refine ((collect_paths_outcome "app" _).2.2 _).2
      ⟨[("db/key", "one"), ("db/key", "two")], "db-key", "three", [("/", "four")], rfl, ?_, ?_⟩
    · exact ⟨by decide, by unfold Unambiguous; decide⟩
    · exact .clash "db/key" (by decide) (by decide) (by decide) (by decide)

end Secret

end EnvInject
