import EnvInject.Pairs

/-!
# Lists kept in key order

Association lists whose keys ascend strictly. Texts are compared character by character, by code
point, which is also the order of their UTF-8 bytes.

* `Ascending` : the keys ascend strictly;
* `put` : sets a key, at its place in the order (`ascending_put`, `lookup_put`).
-/

namespace EnvInject.Ordered

variable {α : Type}

def Ascending (pairs : List (String × α)) : Prop := (pairs.map Prod.fst).Pairwise (· < ·)

/-- Sets `key` to `value` at its place in the order; an earlier value is replaced. -/
def put (key : String) (value : α) : List (String × α) → List (String × α)
  | [] => [(key, value)]
  | (k, v) :: rest =>
    if key < k then (key, value) :: (k, v) :: rest
    else if key = k then (key, value) :: rest
    else (k, v) :: put key value rest

theorem ascending_nil : Ascending ([] : List (String × α)) := List.Pairwise.nil

theorem ascending_cons {k : String} {v : α} {rest : List (String × α)} :
    Ascending ((k, v) :: rest) ↔ (∀ p ∈ rest, k < p.1) ∧ Ascending rest := by
  simp [Ascending]

theorem mem_put {key : String} {value : α} {pairs : List (String × α)} {p : String × α}
    (h : p ∈ put key value pairs) : p = (key, value) ∨ p ∈ pairs := by
  induction pairs with
  | nil => simpa [put] using h
  | cons q rest ih =>
    obtain ⟨k, v⟩ := q
    simp only [put] at h
    split at h
    · simpa using h
    · split at h
      · simp only [List.mem_cons] at h ⊢
        rcases h with h | h
        · exact .inl h
        · exact .inr (.inr h)
      · simp only [List.mem_cons] at h ⊢
        rcases h with h | h
        · exact .inr (.inl h)
        · rcases ih h with h | h
          · exact .inl h
          · exact .inr (.inr h)

theorem lt_of_not_lt_of_ne {a b : String} (h : ¬ a < b) (hne : a ≠ b) : b < a :=
  Decidable.byContradiction fun h' =>
    hne (String.le_antisymm (String.not_lt.mp h') (String.not_lt.mp h))

theorem ascending_put {key : String} {value : α} {pairs : List (String × α)}
    (h : Ascending pairs) : Ascending (put key value pairs) := by
  induction pairs with
  | nil => simp [put, Ascending]
  | cons q rest ih =>
    obtain ⟨k, v⟩ := q
    have hr := ascending_cons.1 h
    simp only [put]
    split
    · rename_i hlt
      refine ascending_cons.2 ⟨?_, h⟩
      intro p hp
      rcases List.mem_cons.1 hp with rfl | hp
      · exact hlt
      · exact String.lt_trans hlt (hr.1 p hp)
    · rename_i hlt
      split
      · rename_i heq
        subst heq
        exact ascending_cons.2 hr
      · rename_i hne
        refine ascending_cons.2 ⟨?_, ih hr.2⟩
        intro p hp
        rcases mem_put hp with rfl | hp
        · exact lt_of_not_lt_of_ne hlt hne
        · exact hr.1 p hp

theorem lookup_put {key : String} {value : α} {pairs : List (String × α)}
    (h : Ascending pairs) (k : String) :
    (put key value pairs).lookup k = if k = key then some value else pairs.lookup k := by
  induction pairs with
  | nil => rw [put, Pairs.lookup_cons]
  | cons q rest ih =>
    obtain ⟨k', v⟩ := q
    have hr := ascending_cons.1 h
    rw [put]
    split
    · rw [Pairs.lookup_cons]
    · split
      · rename_i heq
        subst heq
        simp only [Pairs.lookup_cons]
        split <;> rfl
      · rename_i hne
        simp only [Pairs.lookup_cons, ih hr.2]
        by_cases hk : k = k'
        · simp [hk, Ne.symm hne]
        · simp [hk]

end EnvInject.Ordered
