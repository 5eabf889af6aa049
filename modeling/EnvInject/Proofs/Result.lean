/-!
# Results

What is known of a computation in steps, each of which may fail, once it gave a result or an error.

* `bind_eq_ok`, `map_eq_ok_iff` : every step gave one;
* `bind_eq_error` : one of two steps failed;
* `mapError_eq_ok`, `mapError_eq_error` : how an error is told matters to errors alone;
* `exists_ok_of_toOption` : a result that something was read from is there;
* `checkAll` : checks the elements of a list in order (`checkAll_eq_ok_iff`, and
  `checkAll_eq_error_iff` for the first that does not pass).
-/

namespace EnvInject

variable {ε ε' α β : Type}

theorem bind_eq_ok {x : Except ε α} {f : α → Except ε β} {b : β} :
    x >>= f = .ok b ↔ ∃ a, x = .ok a ∧ f a = .ok b := by
  cases x with
  | error e => exact ⟨nofun, nofun⟩
  | ok a => exact ⟨fun h => ⟨a, rfl, h⟩, fun ⟨_, ha, h⟩ => Except.ok.inj ha ▸ h⟩

theorem bind_eq_error {x : Except ε α} {f : α → Except ε β} {e : ε} :
    x >>= f = .error e ↔ x = .error e ∨ ∃ a, x = .ok a ∧ f a = .error e := by
  cases x with
  | error e' =>
    refine ⟨fun h => .inl (congrArg _ (Except.error.inj h)), ?_⟩
    rintro (h | ⟨_, h, _⟩)
    · exact congrArg _ (Except.error.inj h)
    · cases h
  | ok a =>
    refine ⟨fun h => .inr ⟨a, rfl, h⟩, ?_⟩
    rintro (h | ⟨_, ha, h⟩)
    · cases h
    · cases ha
      exact h

theorem map_eq_ok_iff {f : α → β} {x : Except ε α} {b : β} :
    x.map f = .ok b ↔ ∃ a, x = .ok a ∧ f a = b := by
  cases x with
  | error e => exact ⟨nofun, nofun⟩
  | ok a =>
    constructor
    · intro h
      exact ⟨a, rfl, Except.ok.inj h⟩
    · rintro ⟨_, ha, rfl⟩
      cases ha
      rfl

theorem mapError_eq_ok {f : ε → ε'} {x : Except ε α} {a : α} :
    x.mapError f = .ok a ↔ x = .ok a := by
  cases x with
  | error e => exact ⟨nofun, nofun⟩
  | ok b => exact ⟨fun h => congrArg _ (Except.ok.inj h), fun h => congrArg _ (Except.ok.inj h)⟩

theorem mapError_eq_error {f : ε → ε'} {x : Except ε α} {e' : ε'} :
    x.mapError f = .error e' ↔ ∃ e, x = .error e ∧ f e = e' := by
  cases x with
  | error e =>
    constructor
    · intro h
      exact ⟨e, rfl, Except.error.inj h⟩
    · rintro ⟨_, he, rfl⟩
      cases he
      rfl
  | ok a => exact ⟨nofun, nofun⟩

theorem exists_ok_of_toOption {x : Except ε α} {f : α → Option β} {b : β}
    (h : x.toOption.bind f = some b) : ∃ a, x = .ok a ∧ f a = some b := by
  cases x with
  | error e => cases h
  | ok a => exact ⟨a, rfl, h⟩

/-! ## Checking a list in order -/

/-- Passes the elements on that satisfy `p`, and fails at the first that does not. -/
def checkAll (p : α → Prop) [DecidablePred p] (pass : α → β) (refuse : α → ε) :
    List α → Except ε (List β)
  | [] => .ok []
  | x :: rest => if p x then (checkAll p pass refuse rest).map (pass x :: ·) else .error (refuse x)

section Check
variable {p : α → Prop} [DecidablePred p] {pass : α → β} {refuse : α → ε}

theorem checkAll_append (xs ys : List α) :
    checkAll p pass refuse (xs ++ ys) = (do
      let here ← checkAll p pass refuse xs
      let further ← checkAll p pass refuse ys
      pure (here ++ further)) := by
  induction xs with
  | nil =>
    rw [List.nil_append, checkAll]
    cases checkAll p pass refuse ys <;> rfl
  | cons x rest ih =>
    rw [List.cons_append, checkAll, checkAll, ih]
    by_cases hp : p x
    · rw [if_pos hp, if_pos hp]
      cases checkAll p pass refuse rest with
      | error e => rfl
      | ok here => cases checkAll p pass refuse ys <;> rfl
    · rw [if_neg hp, if_neg hp]
      rfl

theorem checkAll_eq_ok_iff {xs : List α} {ys : List β} :
    checkAll p pass refuse xs = .ok ys ↔ (∀ x ∈ xs, p x) ∧ ys = xs.map pass := by
  induction xs generalizing ys with
  | nil => exact ⟨fun h => ⟨nofun, (Except.ok.inj h).symm⟩, fun h => congrArg Except.ok h.2.symm⟩
  | cons x rest ih =>
    rw [checkAll, List.forall_mem_cons, List.map_cons]
    by_cases hp : p x
    · rw [if_pos hp]
      cases hrest : checkAll p pass refuse rest with
      | error e =>
        refine ⟨nofun, fun h => ?_⟩
        have hok := ih.2 ⟨h.1.2, rfl⟩
        rw [hrest] at hok
        cases hok
      | ok further =>
        obtain ⟨hall, rfl⟩ := ih.1 hrest
        exact ⟨fun h => ⟨⟨hp, hall⟩, (Except.ok.inj h).symm⟩, fun h => congrArg Except.ok h.2.symm⟩
    · rw [if_neg hp]
      exact ⟨nofun, fun h => absurd h.1.1 hp⟩

theorem checkAll_eq_error_iff {xs : List α} {e : ε} :
    checkAll p pass refuse xs = .error e ↔
      ∃ before x after, xs = before ++ x :: after ∧ (∀ y ∈ before, p y) ∧ ¬ p x ∧
        e = refuse x := by
  induction xs with
  | nil =>
    refine ⟨nofun, ?_⟩
    rintro ⟨before, x, after, hnil, -⟩
    exact absurd hnil.symm (by simp)
  | cons x rest ih =>
    rw [checkAll]
    by_cases hp : p x
    · rw [if_pos hp]
      have hmap : (checkAll p pass refuse rest).map (pass x :: ·) = .error e ↔
          checkAll p pass refuse rest = .error e := by
        cases checkAll p pass refuse rest with
        | error e' => exact Iff.rfl
        | ok further => exact ⟨nofun, nofun⟩
      rw [hmap, ih]
      constructor
      · rintro ⟨before, y, after, rfl, hbefore, hy⟩
        exact ⟨x :: before, y, after, rfl, List.forall_mem_cons.2 ⟨hp, hbefore⟩, hy⟩
      · rintro ⟨before, y, after, hsplit, hbefore, hy⟩
        cases before with
        | nil =>
          obtain ⟨rfl, -⟩ := List.cons.inj hsplit
          exact absurd hp hy.1
        | cons z before =>
          obtain ⟨-, rfl⟩ := List.cons.inj hsplit
          exact ⟨before, y, after, rfl, (List.forall_mem_cons.1 hbefore).2, hy⟩
    · rw [if_neg hp]
      constructor
      · intro h
        cases h
        exact ⟨[], x, rest, rfl, nofun, hp, rfl⟩
      · rintro ⟨before, y, after, hsplit, hbefore, hy, rfl⟩
        cases before with
        | nil =>
          obtain ⟨rfl, -⟩ := List.cons.inj hsplit
          rfl
        | cons z before =>
          obtain ⟨rfl, -⟩ := List.cons.inj hsplit
          exact absurd (List.forall_mem_cons.1 hbefore).1 hp

end Check

end EnvInject
