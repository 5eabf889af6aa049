import EnvInject.Environment
import Mathlib.Data.List.Nodup
import Mathlib.Data.List.Perm.Basic

/-!
# Environments as mappings

Two environments hold the same variables just if every name has the same value in both, whatever the
order. With the order of the names besides, they are equal.

* `sameVariables_iff` : the same variables are the same values by name;
* `ext_get?` : equal names in order and equal values make equal environments;
* `restrict` : the variables of some names alone (`get?_restrict`, `names_restrict`).
-/

namespace EnvInject.Environment

variable {env other : Environment}

theorem mem_names_iff (env : Environment) (name : String) :
    name ∈ env.names ↔ env.get? name ≠ none := by
  rw [Ne, get?_eq_none_iff, Decidable.not_not]

theorem ext_get? (hnames : env.names = other.names)
    (h : ∀ name, env.get? name = other.get? name) : env = other := by
  have hpairs : env.pairs = other.pairs := Pairs.ext_lookup hnames env.nodup h
  obtain ⟨pairs, hnodup⟩ := env
  obtain ⟨pairs', hnodup'⟩ := other
  obtain rfl : pairs = pairs' := hpairs
  rfl

theorem size_eq_of_get? (h : ∀ name, env.get? name = other.get? name) : env.size = other.size := by
  have hperm : env.names.Perm other.names := by
    refine (List.perm_ext_iff_of_nodup env.nodup other.nodup).2 fun name => ?_
    exact (mem_names_iff env name).trans (h name ▸ (mem_names_iff other name).symm)
  simpa [names, size] using hperm.length_eq

theorem sameVariables_iff (env other : Environment) :
    env.sameVariables other = true ↔ ∀ name, env.get? name = other.get? name := by
  rw [sameVariables, Bool.and_eq_true, beq_iff_eq, List.all_eq_true]
  constructor
  · rintro ⟨hsize, hall⟩ name
    have hvalue : ∀ name value, env.get? name = some value → other.get? name = some value := by
      intro name value h
      have hmem := (get?_eq_some_iff env name value).1 h
      exact beq_iff_eq.1 (hall _ hmem)
    -- as many names on both sides, so the other side has no name of its own
    have hsub : env.names ⊆ other.names := by
      intro name hname
      obtain ⟨value, h⟩ := Option.ne_none_iff_exists'.1 ((mem_names_iff env name).1 hname)
      exact (mem_names_iff other name).2 (hvalue name value h ▸ Option.some_ne_none value)
    have hperm : env.names.Perm other.names := by
      apply (List.subperm_of_subset env.nodup hsub).perm_of_length_le
      simpa [names, size] using Nat.le_of_eq hsize.symm
    cases h : env.get? name with
    | some value => exact (hvalue name value h).symm
    | none =>
      have hname : name ∉ other.names := fun hmem =>
        (get?_eq_none_iff env name).1 h (hperm.mem_iff.2 hmem)
      exact ((get?_eq_none_iff other name).2 hname).symm
  · intro h
    refine ⟨size_eq_of_get? h, fun p hp => ?_⟩
    have hget : env.get? p.1 = some p.2 := (get?_eq_some_iff env p.1 p.2).2 hp
    rw [← h, hget, beq_self_eq_true]

/-- The variables of these names alone, in their order. -/
def restrict (env : Environment) (names : List String) : Environment where
  pairs := env.pairs.filter fun p => decide (p.1 ∈ names)
  nodup := (List.filter_sublist.map Prod.fst).nodup env.nodup

theorem get?_restrict (env : Environment) (names : List String) (name : String) :
    (env.restrict names).get? name = if name ∈ names then env.get? name else none := by
  refine (Pairs.lookup_filter (fun n => decide (n ∈ names)) env.pairs name).trans ?_
  simp only [decide_eq_true_eq, get?]

theorem names_restrict (env : Environment) (names : List String) :
    (env.restrict names).names = env.names.filter fun name => decide (name ∈ names) := by
  rw [restrict, Environment.names, Environment.names, List.filter_map]
  rfl

end EnvInject.Environment
