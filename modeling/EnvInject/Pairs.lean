/-!
# Lists of named values

A value is found under the first occurrence of its name. Setting a name in place keeps the order.

* `lookup_cons`, `lookup_eq_none_iff`, `lookup_eq_some_iff`, `lookup_map`, `lookup_filter`,
  `lookup_reverse_eq_some_iff` : looking up;
* `ext_lookup` : names in order and values by name make up a list;
* `Pairs.exchange` : sets a name and returns its value before (`names_exchange`, `lookup_exchange`,
  `exchange_of_notMem`).
-/

namespace EnvInject.Pairs

theorem lookup_cons {α : Type} (k n : String) (v : α) (rest : List (String × α)) :
    ((n, v) :: rest).lookup k = if k = n then some v else rest.lookup k := by
  rw [List.lookup_cons]
  by_cases h : k = n
  · simp [h]
  · simp [h, beq_false_of_ne h]

theorem lookup_eq_none_iff {α : Type} (k : String) (pairs : List (String × α)) :
    pairs.lookup k = none ↔ k ∉ pairs.map Prod.fst := by
  induction pairs with
  | nil => simp
  | cons p rest ih =>
    obtain ⟨n, v⟩ := p
    rw [lookup_cons]
    by_cases h : k = n
    · simp [h]
    · simpa [h] using ih

theorem lookup_eq_some_iff {α : Type} {pairs : List (String × α)}
    (h : (pairs.map Prod.fst).Nodup) (k : String) (v : α) :
    pairs.lookup k = some v ↔ (k, v) ∈ pairs := by
  induction pairs with
  | nil => simp
  | cons p rest ih =>
    obtain ⟨n, w⟩ := p
    obtain ⟨hfresh, hrest⟩ := List.nodup_cons.1 h
    rw [lookup_cons, List.mem_cons, Prod.mk.injEq]
    by_cases hk : k = n
    · have hnot : (n, v) ∉ rest := fun hm => hfresh (List.mem_map.2 ⟨(n, v), hm, rfl⟩)
      rw [if_pos hk, Option.some.injEq, eq_comm, hk]
      simp [hnot]
    · simp [hk, ih hrest]

theorem lookup_map {α β : Type} (f : String → α → β) (k : String) (pairs : List (String × α)) :
    (pairs.map fun p => (p.1, f p.1 p.2)).lookup k = (pairs.lookup k).map (f k) := by
  induction pairs with
  | nil => rfl
  | cons p rest ih =>
    obtain ⟨n, v⟩ := p
    rw [List.map_cons, lookup_cons, lookup_cons, ih]
    by_cases h : k = n <;> simp [h]

theorem lookup_filter {κ α : Type} [BEq κ] [LawfulBEq κ] (keep : κ → Bool) (pairs : List (κ × α))
    (k : κ) :
    (pairs.filter fun p => keep p.1).lookup k = if keep k then pairs.lookup k else none := by
  induction pairs with
  | nil => simp
  | cons p rest ih =>
    obtain ⟨n, v⟩ := p
    by_cases hk : k = n
    · subst hk
      cases hkeep : keep k <;> simp [hkeep, ih]
    · have hother : (k == n) = false := beq_false_of_ne hk
      cases hkeep : keep n <;> simp [List.lookup_cons, hkeep, hother, ih]

/-- Read from the back, a name has the value of its last occurrence. -/
theorem lookup_reverse_eq_some_iff {α : Type} {pairs : List (String × α)} {k : String}
    {v : α} :
    pairs.reverse.lookup k = some v ↔
      ∃ before after, pairs = before ++ (k, v) :: after ∧ ∀ p ∈ after, p.1 ≠ k := by
  rw [List.lookup_eq_some_iff]
  constructor
  · rintro ⟨front, back, hsplit, hfresh⟩
    refine ⟨back.reverse, front.reverse, ?_, fun p hp => ?_⟩
    · simpa using congrArg List.reverse hsplit
    · have hne := hfresh p (List.mem_reverse.1 hp)
      exact fun h => by simp [h] at hne
  · rintro ⟨before, after, rfl, hfresh⟩
    refine ⟨after.reverse, before.reverse, by simp, fun p hp => ?_⟩
    have hne := hfresh p (List.mem_reverse.1 hp)
    simpa using Ne.symm hne

/-- The names in their order and the value of each name make up the list. -/
theorem ext_lookup {α : Type} {xs ys : List (String × α)}
    (hnames : xs.map Prod.fst = ys.map Prod.fst) (hnodup : (xs.map Prod.fst).Nodup)
    (h : ∀ k, xs.lookup k = ys.lookup k) : xs = ys := by
  induction xs generalizing ys with
  | nil =>
    rw [List.map_nil] at hnames
    exact (List.map_eq_nil_iff.1 hnames.symm).symm
  | cons p rest ih =>
    cases ys with
    | nil => cases hnames
    | cons q rest' =>
      obtain ⟨n, v⟩ := p
      obtain ⟨m, w⟩ := q
      obtain ⟨hname, hrest⟩ := List.cons.inj hnames
      obtain ⟨hfresh, hnodup'⟩ := List.nodup_cons.1 hnodup
      obtain rfl : n = m := hname
      have hvalue : v = w := by
        have hn := h n
        rw [lookup_cons, lookup_cons, if_pos rfl, if_pos rfl] at hn
        exact Option.some.inj hn
      have hlookup : ∀ k, rest.lookup k = rest'.lookup k := by
        intro k
        by_cases hk : k = n
        · rw [hk, (lookup_eq_none_iff n rest).2 hfresh, (lookup_eq_none_iff n rest').2]
          exact hrest ▸ hfresh
        · have hother := h k
          rwa [lookup_cons, lookup_cons, if_neg hk, if_neg hk] at hother
      rw [hvalue, ih hrest hnodup' hlookup]

/-- Sets `name` to `value` in place if it occurs and at the end otherwise. The value before is
returned beside the new list. -/
def exchange (name value : String) :
    List (String × String) → Option String × List (String × String)
  | [] => (none, [(name, value)])
  | (n, v) :: rest =>
    if n = name then (some v, (n, value) :: rest)
    else ((exchange name value rest).1, (n, v) :: (exchange name value rest).2)

theorem exchange_fst (name value : String) (pairs : List (String × String)) :
    (exchange name value pairs).1 = pairs.lookup name := by
  induction pairs with
  | nil => rfl
  | cons p rest ih =>
    obtain ⟨n, v⟩ := p
    rw [lookup_cons, exchange]
    by_cases h : n = name
    · simp [h]
    · simp [h, Ne.symm h, ih]

theorem names_exchange (name value : String) (pairs : List (String × String)) :
    (exchange name value pairs).2.map Prod.fst =
      if name ∈ pairs.map Prod.fst then pairs.map Prod.fst else pairs.map Prod.fst ++ [name] := by
  induction pairs with
  | nil => simp [exchange]
  | cons p rest ih =>
    obtain ⟨n, v⟩ := p
    rw [exchange]
    by_cases h : n = name
    · simp [h]
    · simp only [if_neg h, List.map_cons, ih, List.mem_cons, Ne.symm h, false_or]
      split <;> simp

theorem lookup_exchange (name value k : String) (pairs : List (String × String)) :
    (exchange name value pairs).2.lookup k = if k = name then some value else pairs.lookup k := by
  induction pairs with
  | nil => rw [exchange, lookup_cons]
  | cons p rest ih =>
    obtain ⟨n, v⟩ := p
    rw [exchange]
    by_cases h : n = name
    · subst h
      simp only [if_true, lookup_cons]
      split <;> rfl
    · simp only [if_neg h, lookup_cons, ih]
      by_cases hk : k = n
      · simp [hk, h]
      · simp [hk]

theorem exchange_of_notMem {name : String} (value : String) {pairs : List (String × String)}
    (h : name ∉ pairs.map Prod.fst) : (exchange name value pairs).2 = pairs ++ [(name, value)] := by
  induction pairs with
  | nil => rfl
  | cons p rest ih =>
    obtain ⟨n, v⟩ := p
    simp only [List.map_cons, List.mem_cons, not_or] at h
    rw [exchange, if_neg (Ne.symm h.1), ih h.2, List.cons_append]

theorem nodup_exchange {name value : String} {pairs : List (String × String)}
    (h : (pairs.map Prod.fst).Nodup) : ((exchange name value pairs).2.map Prod.fst).Nodup := by
  rw [names_exchange]
  split
  · exact h
  · rename_i hn
    refine List.nodup_append.2 ⟨h, by simp, ?_⟩
    intro a ha b hb hab
    exact hn (List.mem_singleton.1 hb ▸ hab ▸ ha)

end EnvInject.Pairs
