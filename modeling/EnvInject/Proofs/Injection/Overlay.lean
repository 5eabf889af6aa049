import EnvInject.Proofs.Injection.Fetched
import Mathlib

/-!
# Laying sets over an environment

What one secret, the set of one service, and a sequence of sets do to the names, the values and the
collisions of an injection. Both ways to lay them, overwriting and keeping, are one argument: they
differ in which of two values prevails and in the kind of the collisions.

* `prevailing` : the value that a name with an old value has after it is given a new one;
* `names_overlay` : the names of the base, then each new name where it is first defined;
* `get?_overlay` : the last definition, or under keeping the first, against the base;
* `collisions_overlay` : one collision for each name of a set that is there when the set is applied;
* `prefix_overlay` : under keeping, the variables of the base stay a front of the result.
-/

namespace EnvInject

/-- The value of a name that has `old` and is given `new`. -/
def prevailing (keep : Bool) (old new : Option String) : Option String :=
  if keep then old.or new else new.or old

def collisionKind (keep : Bool) : CollisionKind := if keep then .preserved else .overwritten

/-- The names that the sets add to `base`, each once, where it is first defined. -/
def newNames (base : Environment) (sets : List (String × SecretSet)) : List String :=
  ((sets.flatMap fun f => f.2.names).filter fun name => name ∉ base.names).eraseDups

/-- The name is in `base` or in the set of a position before `i`. -/
def Known (base : Environment) (sets : List (String × SecretSet)) (i : Nat) (name : String) : Prop :=
  name ∈ base.names ∨ ∃ f ∈ sets.take i, name ∈ f.2.names

instance (base : Environment) (sets : List (String × SecretSet)) (i : Nat) (name : String) :
    Decidable (Known base sets i name) :=
  inferInstanceAs (Decidable (_ ∨ _))

/-- Service and name for each name of a set that is known at the position of the set, by position
and then in the order of the set. -/
def overlaps (base : Environment) (sets : List (String × SecretSet)) : List (String × String) :=
  (sets.mapIdx fun i f => (f.2.names.filter (Known base sets i)).map fun name => (f.1, name)).flatten

@[simp] theorem prevailing_none (keep : Bool) (old : Option String) :
    prevailing keep old none = old := by
  cases keep <;> simp [prevailing]

@[simp] theorem none_prevailing (keep : Bool) (new : Option String) :
    prevailing keep none new = new := by
  cases keep <;> simp [prevailing]

theorem prevailing_assoc (keep : Bool) (a b c : Option String) :
    prevailing keep (prevailing keep a b) c = prevailing keep a (prevailing keep b c) := by
  cases keep <;> simp [prevailing, Option.or_assoc]

/-- The value that the sets together give a name. -/
def valueOf (keep : Bool) (sets : List (String × SecretSet)) (name : String) : Option String :=
  if keep then firstValue? sets name else lastValue? sets name

theorem valueOf_nil (keep : Bool) (name : String) : valueOf keep [] name = none := by
  cases keep <;> rfl

theorem valueOf_cons (keep : Bool) (f : String × SecretSet) (sets : List (String × SecretSet))
    (name : String) :
    valueOf keep (f :: sets) name = prevailing keep (f.2.get? name) (valueOf keep sets name) := by
  cases keep
  · exact lastValue?_cons sets name f
  · exact firstValue?_cons sets name f

theorem valueOf_append (keep : Bool) (xs ys : List (String × SecretSet)) (name : String) :
    valueOf keep (xs ++ ys) name = prevailing keep (valueOf keep xs name) (valueOf keep ys name) := by
  induction xs with
  | nil => rw [List.nil_append, valueOf_nil, none_prevailing]
  | cons f rest ih => rw [List.cons_append, valueOf_cons, ih, valueOf_cons, prevailing_assoc]

/-! ## One secret -/

section Secret
variable (keep : Bool) (service : String) (state : Injection) (secret : String × String)

theorem applySecret_of_mem (h : secret.1 ∈ state.env.names) :
    applySecret keep service state secret =
      { env := if keep then state.env else state.env.insert secret.1 secret.2
        collisions := state.collisions ++ [⟨service, secret.1, collisionKind keep⟩] } := by
  rw [applySecret, if_pos ((Environment.contains_iff _ _).2 h), collisionKind]

theorem applySecret_of_notMem (h : secret.1 ∉ state.env.names) :
    applySecret keep service state secret =
      { state with env := state.env.insert secret.1 secret.2 } := by
  rw [applySecret, if_neg fun hc => h ((Environment.contains_iff _ _).1 hc)]

theorem names_applySecret :
    (applySecret keep service state secret).env.names =
      if secret.1 ∈ state.env.names then state.env.names else state.env.names ++ [secret.1] := by
  by_cases h : secret.1 ∈ state.env.names
  · rw [applySecret_of_mem _ _ _ _ h, if_pos h]
    cases keep
    · exact (Environment.names_insert _ _ _).trans (if_pos h)
    · rfl
  · rw [applySecret_of_notMem _ _ _ _ h]
    exact Environment.names_insert _ _ _

/-- A secret does not change which of some other names are there. -/
theorem mem_names_applySecret_of_notMem {names : List String} (h : secret.1 ∉ names) :
    ∀ name ∈ names,
      (name ∈ (applySecret keep service state secret).env.names ↔ name ∈ state.env.names) := by
  intro name hname
  have hne : name ≠ secret.1 := fun he => h (he ▸ hname)
  rw [names_applySecret]
  split
  · rfl
  · simp [hne]

theorem get?_applySecret (name : String) :
    (applySecret keep service state secret).env.get? name =
      prevailing keep (state.env.get? name) (if name = secret.1 then some secret.2 else none) := by
  by_cases h : secret.1 ∈ state.env.names
  · rw [applySecret_of_mem _ _ _ _ h]
    cases keep
    · refine (Environment.get?_insert _ _ _ _).trans ?_
      split <;> simp [prevailing]
    · change state.env.get? name = _
      split
      · rename_i hname
        obtain ⟨old, hold⟩ : ∃ old, state.env.get? secret.1 = some old :=
          Option.ne_none_iff_exists'.1 fun hn => (Environment.get?_eq_none_iff _ _).1 hn h
        rw [hname, hold, prevailing, if_pos rfl, Option.some_or]
      · rw [prevailing_none]
  · rw [applySecret_of_notMem _ _ _ _ h]
    refine (Environment.get?_insert _ _ _ _).trans ?_
    split
    · rename_i hname
      rw [hname, (Environment.get?_eq_none_iff _ _).2 h, none_prevailing]
    · rw [prevailing_none]

theorem collisions_applySecret :
    (applySecret keep service state secret).collisions =
      state.collisions ++
        if secret.1 ∈ state.env.names then [⟨service, secret.1, collisionKind keep⟩] else [] := by
  by_cases h : secret.1 ∈ state.env.names
  · rw [applySecret_of_mem _ _ _ _ h, if_pos h]
  · rw [applySecret_of_notMem _ _ _ _ h, if_neg h, List.append_nil]

/-- Under keeping, a secret leaves the variables that are there where and as they are. -/
theorem prefix_applySecret :
    state.env.pairs <+: (applySecret true service state secret).env.pairs := by
  by_cases h : secret.1 ∈ state.env.names
  · rw [applySecret_of_mem _ _ _ _ h]
    exact List.prefix_refl _
  · rw [applySecret_of_notMem _ _ _ _ h]
    exact Environment.pairs_insert_of_notMem secret.2 h ▸ List.prefix_append _ _

end Secret

/-! ## The set of one service -/

section Entries
variable {keep : Bool} {service : String}

theorem names_foldl_applySecret {entries : List (String × String)} (state : Injection)
    (h : (entries.map Prod.fst).Nodup) :
    (entries.foldl (applySecret keep service) state).env.names =
      state.env.names ++ (entries.map Prod.fst).filter fun name => name ∉ state.env.names := by
  induction entries generalizing state with
  | nil => simp
  | cons secret rest ih =>
    obtain ⟨hfresh, hrest⟩ := List.nodup_cons.1 h
    -- the first name does not occur among the rest, so it hides none of them
    have hkeep : (rest.map Prod.fst).filter
          (fun name => name ∉ (applySecret keep service state secret).env.names) =
        (rest.map Prod.fst).filter fun name => name ∉ state.env.names := by
      refine List.filter_congr fun name hname => ?_
      simp only [mem_names_applySecret_of_notMem _ _ _ _ hfresh name hname]
    rw [List.foldl_cons, ih _ hrest, hkeep, names_applySecret]
    by_cases hm : secret.1 ∈ state.env.names <;> simp [hm]

theorem get?_foldl_applySecret {entries : List (String × String)} (state : Injection)
    (h : (entries.map Prod.fst).Nodup) (name : String) :
    (entries.foldl (applySecret keep service) state).env.get? name =
      prevailing keep (state.env.get? name) (entries.lookup name) := by
  induction entries generalizing state with
  | nil => rw [List.foldl_nil, List.lookup_nil, prevailing_none]
  | cons secret rest ih =>
    obtain ⟨hfresh, hrest⟩ := List.nodup_cons.1 h
    rw [List.foldl_cons, ih _ hrest, get?_applySecret, prevailing_assoc, Pairs.lookup_cons]
    split
    · rename_i hname
      rw [(Pairs.lookup_eq_none_iff name rest).2 (hname ▸ hfresh), prevailing_none]
    · rw [none_prevailing]

theorem collisions_foldl_applySecret {entries : List (String × String)} (state : Injection)
    (h : (entries.map Prod.fst).Nodup) :
    (entries.foldl (applySecret keep service) state).collisions =
      state.collisions ++ ((entries.map Prod.fst).filter fun name => name ∈ state.env.names).map
        fun name => ⟨service, name, collisionKind keep⟩ := by
  induction entries generalizing state with
  | nil => simp
  | cons secret rest ih =>
    obtain ⟨hfresh, hrest⟩ := List.nodup_cons.1 h
    have hkeep : (rest.map Prod.fst).filter
          (fun name => name ∈ (applySecret keep service state secret).env.names) =
        (rest.map Prod.fst).filter fun name => name ∈ state.env.names := by
      refine List.filter_congr fun name hname => ?_
      simp only [mem_names_applySecret_of_notMem _ _ _ _ hfresh name hname]
    rw [List.foldl_cons, ih _ hrest, hkeep, collisions_applySecret, List.append_assoc]
    by_cases hm : secret.1 ∈ state.env.names <;> simp [hm]

end Entries

section OneSet
variable (keep : Bool) (state : Injection) (f : String × SecretSet)

theorem names_applySet :
    (applySet keep state f).env.names =
      state.env.names ++ f.2.names.filter fun name => name ∉ state.env.names :=
  names_foldl_applySecret state f.2.nodup_names

theorem get?_applySet (name : String) :
    (applySet keep state f).env.get? name =
      prevailing keep (state.env.get? name) (f.2.get? name) :=
  get?_foldl_applySecret state f.2.nodup_names name

theorem collisions_applySet :
    (applySet keep state f).collisions =
      state.collisions ++ (f.2.names.filter fun name => name ∈ state.env.names).map
        fun name => ⟨f.1, name, collisionKind keep⟩ :=
  collisions_foldl_applySecret state f.2.nodup_names

theorem prefix_applySet : state.env.pairs <+: (applySet true state f).env.pairs := by
  unfold applySet
  induction f.2.entries generalizing state with
  | nil => exact List.prefix_refl _
  | cons secret rest ih => exact (prefix_applySecret f.1 state secret).trans (ih _)

end OneSet

/-! ## A sequence of sets -/

theorem mem_names_applySet (keep : Bool) (state : Injection) (f : String × SecretSet)
    (name : String) :
    name ∈ (applySet keep state f).env.names ↔ name ∈ state.env.names ∨ name ∈ f.2.names := by
  rw [names_applySet, List.mem_append, List.mem_filter]
  by_cases h : name ∈ state.env.names <;> simp [h]

theorem eraseDups_of_nodup {α : Type} [BEq α] [LawfulBEq α] {xs : List α} (h : xs.Nodup) :
    xs.eraseDups = xs := by
  induction xs with
  | nil => rfl
  | cons x rest ih =>
    obtain ⟨hx, hrest⟩ := List.nodup_cons.1 h
    have hkeep : (rest.filter fun y => !y == x) = rest :=
      List.filter_eq_self.2 fun y hy => by
        have : y ≠ x := fun he => hx (he ▸ hy)
        simpa using this
    rw [List.eraseDups_cons, hkeep, ih hrest]

/-- What the first set adds, and then what the others add to that. -/
theorem newNames_cons (keep : Bool) (state : Injection) (f : String × SecretSet)
    (sets : List (String × SecretSet)) :
    newNames state.env (f :: sets) =
      (f.2.names.filter fun name => name ∉ state.env.names) ++
        newNames (applySet keep state f).env sets := by
  have hnodup : (f.2.names.filter fun name => name ∉ state.env.names).Nodup :=
    f.2.nodup_names.filter _
  rw [newNames, List.flatMap_cons, List.filter_append, List.eraseDups_append,
    eraseDups_of_nodup hnodup, newNames]
  congr 2
  rw [List.removeAll, List.filter_filter]
  refine List.filter_congr fun name _ => ?_
  by_cases h : name ∈ state.env.names <;> simp [mem_names_applySet, h]

theorem known_zero (base : Environment) (sets : List (String × SecretSet)) (name : String) :
    Known base sets 0 name ↔ name ∈ base.names := by
  simp [Known]

/-- What is known past the first set is known from the state that the first set leaves. -/
theorem known_succ (keep : Bool) (state : Injection) (f : String × SecretSet)
    (sets : List (String × SecretSet)) (i : Nat) (name : String) :
    Known state.env (f :: sets) (i + 1) name ↔ Known (applySet keep state f).env sets i name := by
  simp [Known, mem_names_applySet, or_assoc]

theorem overlaps_cons (keep : Bool) (state : Injection) (f : String × SecretSet)
    (sets : List (String × SecretSet)) :
    overlaps state.env (f :: sets) =
      ((f.2.names.filter fun name => name ∈ state.env.names).map fun name => (f.1, name)) ++
        overlaps (applySet keep state f).env sets := by
  simp only [overlaps, List.mapIdx_cons, List.flatten_cons, known_zero, known_succ keep]

theorem names_foldl_applySet (keep : Bool) (sets : List (String × SecretSet)) (state : Injection) :
    (sets.foldl (applySet keep) state).env.names = state.env.names ++ newNames state.env sets := by
  induction sets generalizing state with
  | nil => simp [newNames]
  | cons f rest ih =>
    rw [List.foldl_cons, ih, names_applySet, newNames_cons keep, List.append_assoc]

theorem get?_foldl_applySet (keep : Bool) (sets : List (String × SecretSet)) (state : Injection)
    (name : String) :
    (sets.foldl (applySet keep) state).env.get? name =
      prevailing keep (state.env.get? name) (valueOf keep sets name) := by
  induction sets generalizing state with
  | nil => rw [List.foldl_nil, valueOf_nil, prevailing_none]
  | cons f rest ih => rw [List.foldl_cons, ih, get?_applySet, prevailing_assoc, valueOf_cons]

theorem collisions_foldl_applySet (keep : Bool) (sets : List (String × SecretSet))
    (state : Injection) :
    (sets.foldl (applySet keep) state).collisions =
      state.collisions ++
        (overlaps state.env sets).map fun o => ⟨o.1, o.2, collisionKind keep⟩ := by
  induction sets generalizing state with
  | nil => simp [overlaps]
  | cons f rest ih =>
    rw [List.foldl_cons, ih, collisions_applySet, overlaps_cons keep, List.map_append,
      List.map_map, List.append_assoc]
    rfl

section Overlay
variable (keep : Bool) (base : Environment) (sets : List (String × SecretSet))

theorem names_overlay : (overlay keep base sets).env.names = base.names ++ newNames base sets :=
  names_foldl_applySet keep sets { env := base }

theorem get?_overlay (name : String) :
    (overlay keep base sets).env.get? name =
      prevailing keep (base.get? name) (valueOf keep sets name) :=
  get?_foldl_applySet keep sets { env := base } name

theorem mem_names_overlay_iff (name : String) :
    name ∈ (overlay keep base sets).env.names ↔
      name ∈ base.names ∨ ∃ f ∈ sets, name ∈ f.2.names := by
  rw [names_overlay, List.mem_append, newNames, List.mem_eraseDups, List.mem_filter,
    List.mem_flatMap]
  by_cases h : name ∈ base.names <;> simp [h]

theorem collisions_overlay :
    (overlay keep base sets).collisions =
      (overlaps base sets).map fun o => ⟨o.1, o.2, collisionKind keep⟩ :=
  collisions_foldl_applySet keep sets { env := base }

theorem prefix_overlay : base.pairs <+: (overlay true base sets).env.pairs := by
  have run : ∀ state : Injection, state.env.pairs <+: (sets.foldl (applySet true) state).env.pairs := by
    induction sets with
    | nil => exact fun state => List.prefix_refl _
    | cons f rest ih => exact fun state => (prefix_applySet state f).trans (ih _)
  exact run { env := base }

end Overlay

end EnvInject
