import EnvInject.Proofs.Environment.Equality
import Mathlib

/-!
# Environments and what was set in them

An environment in which variables were set one after the other is a record of what was set: its
names stand in the order in which each was set first, and its values are those that were set last.
Where it started from pairs, these count as set before.

* `exchangeNext`, `exchangeAll` : settings one after the other, with what each of them answers;
* `Records`, `Records.insert`, `Records.exchangeAll` : what the record says, kept by one setting and
  by any number of them;
* `idxOf?_insert` : setting a variable leaves the others where they are;
* `ofPairs_pairs` : an environment is the one of its own pairs;
* `settings_recorded` : all of it, after any settings.
-/

namespace EnvInject.Environment

variable {env : Environment} {history : List (String × String)}

/-! ## Settings one after the other -/

/-- One more setting, with its answer behind the earlier ones. -/
def exchangeNext (state : List (Option String) × Environment) (p : String × String) :
    List (Option String) × Environment :=
  (state.1 ++ [(state.2.exchange p.1 p.2).1], (state.2.exchange p.1 p.2).2)

/-- Sets the pairs one after the other, and lists what each setting answers. -/
def exchangeAll (env : Environment) (pairs : List (String × String)) :
    List (Option String) × Environment :=
  pairs.foldl exchangeNext ([], env)

theorem exchangeAll_concat (env : Environment) (pairs : List (String × String))
    (name value : String) :
    env.exchangeAll (pairs ++ [(name, value)]) =
      ((env.exchangeAll pairs).1 ++ [(env.exchangeAll pairs).2.get? name],
        (env.exchangeAll pairs).2.insert name value) := by
  rw [exchangeAll, List.foldl_concat, ← exchangeAll, exchangeNext, exchange_fst]
  rfl

/-- Beside their answers, the settings are insertions. -/
theorem exchangeAll_snd (env : Environment) (pairs : List (String × String)) :
    (env.exchangeAll pairs).2 = pairs.foldl (fun env p => env.insert p.1 p.2) env :=
  (List.foldl_hom Prod.snd fun _ _ => rfl).symm

/-! ## The record -/

theorem eraseDups_concat {α : Type} [DecidableEq α] (xs : List α) (x : α) :
    (xs ++ [x]).eraseDups = if x ∈ xs then xs.eraseDups else xs.eraseDups ++ [x] := by
  rw [List.eraseDups_append]
  by_cases h : x ∈ xs <;> simp [List.removeAll, List.eraseDups_cons, h]

/-- The environment says what was set: each name where it was set first, with the value that was set
last. -/
structure Records (env : Environment) (history : List (String × String)) : Prop where
  names : env.names = (history.map Prod.fst).eraseDups
  values : ∀ name, env.get? name = history.reverse.lookup name

theorem records_empty : empty.Records [] where
  names := rfl
  values _ := rfl

theorem Records.mem_names_iff (h : env.Records history) (name : String) :
    name ∈ env.names ↔ name ∈ history.map Prod.fst := by
  rw [h.names, List.mem_eraseDups]

theorem Records.insert (h : env.Records history) (name value : String) :
    (env.insert name value).Records (history ++ [(name, value)]) where
  names := by
    have hmem := h.mem_names_iff name
    rw [names_insert, List.map_append, List.map_singleton, eraseDups_concat, ← h.names]
    simp only [hmem]
  values k := by
    rw [get?_insert, List.reverse_append, List.reverse_singleton, List.singleton_append,
      Pairs.lookup_cons, h.values]

theorem Records.foldl_insert (h : env.Records history) (pairs : List (String × String)) :
    (pairs.foldl (fun env p => env.insert p.1 p.2) env).Records (history ++ pairs) := by
  induction pairs generalizing env history with
  | nil => rwa [List.append_nil]
  | cons p rest ih =>
    have hnext := ih (h.insert p.1 p.2)
    rwa [List.append_assoc] at hnext

theorem Records.exchangeAll (h : env.Records history) (pairs : List (String × String)) :
    (env.exchangeAll pairs).2.Records (history ++ pairs) := by
  rw [exchangeAll_snd]
  exact h.foldl_insert pairs

theorem records_ofPairs (pairs : List (String × String)) : (ofPairs pairs).Records pairs :=
  records_empty.foldl_insert pairs

section Values
variable (h : env.Records history)
include h

theorem Records.get?_eq_some_iff (name value : String) :
    env.get? name = some value ↔
      ∃ before after, history = before ++ (name, value) :: after ∧ ∀ p ∈ after, p.1 ≠ name := by
  rw [h.values, Pairs.lookup_reverse_eq_some_iff]

theorem Records.get?_eq_none_iff (name : String) :
    env.get? name = none ↔ ∀ p ∈ history, p.1 ≠ name := by
  rw [Environment.get?_eq_none_iff, h.mem_names_iff, List.mem_map]
  exact ⟨fun hnone p hp hname => hnone ⟨p, hp, hname⟩, fun hall ⟨p, hp, hname⟩ => hall p hp hname⟩

end Values

/-! ## What a setting leaves alone -/

theorem idxOf?_insert {name other : String} (value : String) (h : other ≠ name) :
    (env.insert name value).names.idxOf? other = env.names.idxOf? other := by
  have hlast : [name].idxOf? other = none := by
    rw [List.idxOf?_eq_none_iff, List.mem_singleton]
    exact h
  rw [names_insert]
  split
  · rfl
  · unfold List.idxOf? at hlast ⊢
    rw [List.findIdx?_append, hlast, Option.map_none, Option.or_none]

/-! ## Starting again from the pairs -/

theorem ofPairs_pairs (env : Environment) : ofPairs env.pairs = env := by
  have hpairs : (ofPairs env.pairs).pairs = env.pairs := pairs_ofPairs env.nodup
  apply ext_get?
  · rw [names, hpairs, names]
  · intro name
    rw [get?, hpairs, get?]

/-! ## Any settings -/

/-- **After any settings an environment is the ordered mapping of what was set.** -/
theorem settings_recorded (pairs settings : List (String × String)) :
    ofPairs [] = empty ∧
    let history := pairs ++ settings
    let answers := ((ofPairs pairs).exchangeAll settings).1
    let env := ((ofPairs pairs).exchangeAll settings).2
    env.names = (history.map Prod.fst).eraseDups ∧ env.names.Nodup ∧ env.size = env.names.length ∧
    (∀ name value, env.get? name = some value ↔
      ∃ before after, history = before ++ (name, value) :: after ∧ ∀ p ∈ after, p.1 ≠ name) ∧
    (∀ name, env.get? name = none ↔ ∀ p ∈ history, p.1 ≠ name) ∧
    (∀ name value,
      let next := env.insert name value
      (ofPairs pairs).exchangeAll (settings ++ [(name, value)]) =
        (answers ++ [env.get? name], next) ∧
      (name ∈ env.names → next.names = env.names) ∧
      ∀ other, other ≠ name →
        next.get? other = env.get? other ∧ next.names.idxOf? other = env.names.idxOf? other) ∧
    ofPairs env.pairs = env ∧
    ∀ other : Environment,
      env.sameVariables other = true ↔ ∀ name, env.get? name = other.get? name := by
  refine ⟨rfl, ?_⟩
  intro history answers env
  have hrecords : env.Records history := (records_ofPairs pairs).exchangeAll settings
  have hsize : env.size = env.names.length := (List.length_map Prod.fst).symm
  refine ⟨hrecords.names, env.nodup, hsize, hrecords.get?_eq_some_iff,
    hrecords.get?_eq_none_iff, fun name value => ⟨exchangeAll_concat _ _ _ _, fun hname => ?_, ?_⟩,
    ofPairs_pairs env, sameVariables_iff env⟩
  · rw [names_insert, if_pos hname]
  · intro other hother
    exact ⟨(get?_insert env name value other).trans (if_neg hother), idxOf?_insert value hother⟩

/-- A name among the pairs twice, one that is set again, and another order of the same variables. -/
theorem settings_recorded_set_again :
    let made := (ofPairs [("B", "2"), ("A", "1"), ("B", "3")]).exchangeAll [("C", "x"), ("A", "4")]
    let other := ofPairs [("A", "4"), ("C", "x"), ("B", "3")]
    made.2.names = ["B", "A", "C"] ∧ made.1 = [none, some "1"] ∧ made.2.get? "B" = some "3" ∧
      (made.2.insert "A" "5").names = ["B", "A", "C"] ∧
      (made.2.insert "A" "5").names.idxOf? "C" = some 2 ∧
      (∀ name, made.2.get? name = other.get? name) ∧ made.2.rendered ≠ other.rendered := by
  intro made other
  obtain ⟨-, hnames, -, -, hvalue, -, hnext, -, hsame⟩ :=
    settings_recorded [("B", "2"), ("A", "1"), ("B", "3")] [("C", "x"), ("A", "4")]
  have horder : made.2.names = ["B", "A", "C"] := hnames.trans (by decide +kernel)
  obtain ⟨-, hagain, hothers⟩ := hnext "A" "5"
  refine ⟨horder, by decide +kernel, ?_, ?_, ?_, (hsame other).1 (by decide +kernel),
    by decide +kernel⟩
  · exact (hvalue "B" "3").2
      ⟨[("B", "2"), ("A", "1")], [("C", "x"), ("A", "4")], rfl, by decide⟩
  · exact (hagain (horder ▸ by decide)).trans horder
  · exact (hothers "C" (by decide)).2.trans (by rw [horder]; decide)

end EnvInject.Environment
