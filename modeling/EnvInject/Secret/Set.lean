import EnvInject.Ordered

/-!
# Secret sets

The secrets of one service by variable name, in the order of the names.

* `SecretSet.insert`, `extend` : set one secret, or all of another set (the later value wins);
* `get?_insert` : a secret set reads back, every other one is unchanged;
* `get?_extend` : the later set prevails.
-/

namespace EnvInject

/-- Secrets by name; the names ascend strictly. -/
structure SecretSet where
  /-- The secrets as name and value, by ascending name. -/
  entries : List (String × String)
  ascending : Ordered.Ascending entries

namespace SecretSet

def empty : SecretSet := ⟨[], Ordered.ascending_nil⟩

def names (set : SecretSet) : List String := set.entries.map Prod.fst

def get? (set : SecretSet) (name : String) : Option String := set.entries.lookup name

/-- Sets a secret; an earlier value of the name is replaced. -/
def insert (set : SecretSet) (name value : String) : SecretSet :=
  ⟨Ordered.put name value set.entries, Ordered.ascending_put set.ascending⟩

def extendPairs (set : SecretSet) (pairs : List (String × String)) : SecretSet :=
  pairs.foldl (fun acc p => acc.insert p.1 p.2) set

/-- The secrets of both sets; where both have a name, those of `later`. -/
def extend (set later : SecretSet) : SecretSet := set.extendPairs later.entries

def ofPairs (pairs : List (String × String)) : SecretSet := empty.extendPairs pairs

@[simp] theorem get?_empty (name : String) : empty.get? name = none := rfl

theorem get?_insert (set : SecretSet) (name value k : String) :
    (set.insert name value).get? k = if k = name then some value else set.get? k :=
  Ordered.lookup_put set.ascending k

theorem get?_eq_none_iff (set : SecretSet) (name : String) :
    set.get? name = none ↔ name ∉ set.names :=
  Pairs.lookup_eq_none_iff name set.entries

theorem nodup_names (set : SecretSet) : set.names.Nodup := set.ascending.imp String.ne_of_lt

theorem get?_eq_some_iff (set : SecretSet) (name value : String) :
    set.get? name = some value ↔ (name, value) ∈ set.entries :=
  Pairs.lookup_eq_some_iff set.nodup_names name value

theorem get?_extendPairs (set : SecretSet) {pairs : List (String × String)}
    (h : (pairs.map Prod.fst).Nodup) (name : String) :
    (set.extendPairs pairs).get? name = (pairs.lookup name).or (set.get? name) := by
  induction pairs generalizing set with
  | nil => rfl
  | cons p rest ih =>
    obtain ⟨n, v⟩ := p
    have hr := List.nodup_cons.1 h
    rw [extendPairs, List.foldl_cons, ← extendPairs, ih _ hr.2, get?_insert, Pairs.lookup_cons]
    by_cases hn : name = n
    · subst hn
      simp [(Pairs.lookup_eq_none_iff name rest).2 hr.1]
    · simp [hn]

/-- The later set prevails. -/
theorem get?_extend (set later : SecretSet) (name : String) :
    (set.extend later).get? name = (later.get? name).or (set.get? name) :=
  get?_extendPairs set later.nodup_names name

end SecretSet

end EnvInject
