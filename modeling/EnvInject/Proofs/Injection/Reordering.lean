import EnvInject.Proofs.Injection.Collisions
import EnvInject.Proofs.Injection.Composing
import EnvInject.Proofs.Injection.Strict
import Mathlib

/-!
# Services in another order

Two services next to each other may change places if no name has a secret in both. What comes before
them does not see the exchange, and what comes after sees the same names with the same values; only
the order of new names and of the reports may differ.

* `valueOf_swap`, `union_swap` : the sets together give every name the same value;
* `overlaps_append`, `overlaps_pair`, `overlaps_swap` : the overlaps of a list of sets in parts, and
  of neighbours that change places;
* `AgreeUpToOrder` : the same failure of strict mode, or the same variables and the same reports;
* `inject_swap_independent` : the injection of two independent services in either order.
-/

namespace EnvInject

theorem prevailing_comm (keep : Bool) {a b : Option String} (h : a = none ∨ b = none) :
    prevailing keep a b = prevailing keep b a := by
  rcases h with rfl | rfl <;> simp

theorem fetched_append (secrets : String → SecretSet) (xs ys : List String) :
    fetched secrets (xs ++ ys) = fetched secrets xs ++ fetched secrets ys :=
  List.map_append

/-- The overlaps of later sets are those with the environment that the earlier ones leave. -/
theorem overlaps_append (keep : Bool) (base : Environment) (xs ys : List (String × SecretSet)) :
    overlaps base (xs ++ ys) = overlaps base xs ++ overlaps (overlay keep base xs).env ys := by
  have hplaces := congrArg (·.collisions.map Collision.place) (overlay_append keep base xs ys)
  simpa only [Injection.followedBy, List.map_append, places_overlay] using hplaces

theorem overlaps_singleton (base : Environment) (f : String × SecretSet) :
    overlaps base [f] =
      (f.2.names.filter fun name => name ∈ base.names).map fun name => (f.1, name) := by
  simp [overlaps, known_zero]

/-- Only the names of the base matter, and not their order. -/
theorem overlaps_congr {base other : Environment}
    (h : ∀ name, name ∈ base.names ↔ name ∈ other.names) (sets : List (String × SecretSet)) :
    overlaps base sets = overlaps other sets := by
  have hknown (i : Nat) (name : String) : Known base sets i name ↔ Known other sets i name :=
    or_congr_left (h name)
  simp only [overlaps, hknown]

/-! ## Two neighbours -/

section Swap
variable {f g : String × SecretSet} (h : List.Disjoint f.2.names g.2.names)
include h

theorem get?_of_disjoint (name : String) : f.2.get? name = none ∨ g.2.get? name = none := by
  by_cases hname : name ∈ f.2.names
  · exact .inr ((g.2.get?_eq_none_iff name).2 (h hname))
  · exact .inl ((f.2.get?_eq_none_iff name).2 hname)

theorem valueOf_swap (keep : Bool) (xs ys : List (String × SecretSet)) (name : String) :
    valueOf keep (xs ++ [f, g] ++ ys) name = valueOf keep (xs ++ [g, f] ++ ys) name := by
  have hpair : valueOf keep [f, g] name = valueOf keep [g, f] name := by
    have hnil : valueOf keep [] name = none := by cases keep <;> rfl
    simp only [valueOf_cons, hnil, prevailing_none]
    exact prevailing_comm keep (get?_of_disjoint h name)
  simp only [valueOf_append, hpair]

theorem union_swap (xs ys : List (String × SecretSet)) :
    union (xs ++ [f, g] ++ ys) = union (xs ++ [g, f] ++ ys) := by
  apply SecretSet.ext_get?
  intro name
  rw [get?_union, get?_union]
  exact valueOf_swap h false xs ys name

/-- The second set overlaps with nothing that the first one adds. -/
theorem overlaps_pair (base : Environment) :
    overlaps base [f, g] = overlaps base [f] ++ overlaps base [g] := by
  have hsame : g.2.names.filter (fun name => name ∈ (overlay false base [f]).env.names) =
      g.2.names.filter fun name => name ∈ base.names := by
    apply List.filter_congr
    intro name hname
    have hfresh : name ∉ f.2.names := fun hf => h hf hname
    simp [mem_names_overlay_iff, hfresh]
  have hsplit := overlaps_append false base [f] [g]
  rw [overlaps_singleton (overlay false base [f]).env g, hsame] at hsplit
  rw [overlaps_singleton base g]
  exact hsplit

theorem overlaps_swap (base : Environment) (xs ys : List (String × SecretSet)) :
    (overlaps base (xs ++ [f, g] ++ ys)).Perm (overlaps base (xs ++ [g, f] ++ ys)) := by
  let before := (overlay false base xs).env
  have hpair : (overlaps before [f, g]).Perm (overlaps before [g, f]) := by
    rw [overlaps_pair h, overlaps_pair h.symm]
    exact List.perm_append_comm
  -- what comes after meets the same names
  have hafter : overlaps (overlay false base (xs ++ [f, g])).env ys =
      overlaps (overlay false base (xs ++ [g, f])).env ys := by
    have hmem (e : String × SecretSet) : e ∈ xs ++ [f, g] ↔ e ∈ xs ++ [g, f] :=
      ((List.Perm.swap g f []).append_left xs).mem_iff
    apply overlaps_congr
    intro name
    simp only [mem_names_overlay_iff, hmem]
  simp only [overlaps_append false base, hafter]
  exact (hpair.append_left _).append_right _

end Swap

/-! ## The outcome -/

/-- The same failure of strict mode, or the same variables and the same reports whatever their
order. -/
def AgreeUpToOrder (result other : Except ExecError Injection) : Prop :=
  (∃ name, result = .error (.unfilled name) ∧ other = .error (.unfilled name)) ∨
  ∃ injection injection' : Injection, result = .ok injection ∧ other = .ok injection' ∧
    injection.env.sameVariables injection'.env = true ∧
    injection.collisions.Perm injection'.collisions

theorem agreeUpToOrder_strictFill (real : Environment) (policy : Policy) (secrets : SecretSet) :
    AgreeUpToOrder (strictFill real policy secrets) (strictFill real policy secrets) := by
  rcases strictFill_cases real policy secrets with ⟨name, -, herror⟩ | ⟨-, hok⟩
  · exact .inl ⟨name, herror, herror⟩
  · exact .inr ⟨_, _, hok, hok, (Environment.sameVariables_iff _ _).2 fun _ => rfl, .refl _⟩

theorem settle_swap {f g : String × SecretSet} (h : List.Disjoint f.2.names g.2.names)
    (real : Environment) (policy : Policy) (xs ys : List (String × SecretSet)) :
    AgreeUpToOrder (settle real policy (xs ++ [f, g] ++ ys))
      (settle real policy (xs ++ [g, f] ++ ys)) := by
  cases hstrict : policy.strict with
  | true =>
    rw [settle_strict _ _ hstrict, settle_strict _ _ hstrict, union_swap h]
    exact agreeUpToOrder_strictFill _ _ _
  | false =>
    rw [settle_lax _ _ hstrict, settle_lax _ _ hstrict]
    refine .inr ⟨_, _, rfl, rfl, (Environment.sameVariables_iff _ _).2 fun name => ?_, ?_⟩
    · rw [get?_overlay, get?_overlay, valueOf_swap h]
    · rw [collisions_overlay, collisions_overlay]
      exact (overlaps_swap h _ xs ys).map _

/-- **Independent services may be injected in either order.** -/
theorem inject_swap_independent (real : Environment) (policy : Policy) (source : Source)
    (xs ys : List String) (s t : String) (secrets : String → SecretSet)
    (hfetch : ∀ service ∈ xs ++ [s, t] ++ ys,
      source service policy.keyMode = .ok (secrets service))
    (hdisjoint : List.Disjoint (secrets s).names (secrets t).names) :
    let run (services : List String) := (inject real services source policy).result
    AgreeUpToOrder (run (xs ++ [s, t] ++ ys)) (run (xs ++ [t, s] ++ ys)) := by
  intro run
  have hswapped : ∀ service ∈ xs ++ [t, s] ++ ys,
      source service policy.keyMode = .ok (secrets service) := by
    intro service hservice
    apply hfetch
    simpa [or_left_comm] using hservice
  have hrun (services : List String)
      (h : ∀ service ∈ services, source service policy.keyMode = .ok (secrets service)) :
      run services = settle real policy (fetched secrets services) :=
    result_inject_of_fetched h
  rw [hrun _ hfetch, hrun _ hswapped]
  simp only [fetched_append]
  exact settle_swap hdisjoint real policy _ _

theorem inject_swap_independent_known_names :
    let register : Register := ("mail", [("HOST", "mx"), ("PORT", "25")]) :: sampleRegister
    let run (policy : Policy) (services : List String) :=
      (inject (.ofPairs [("PORT", "80"), ("EXTRA", "chamberme")]) services register.source
        policy).result
    (∃ left right : Injection,
      run { verbatimKeys := true } ["base", "override", "mail", "base"] = .ok left ∧
      run { verbatimKeys := true } ["base", "mail", "override", "base"] = .ok right ∧
      left.env.sameVariables right.env = true ∧ left.collisions.Perm right.collisions ∧
      left.env.names ≠ right.env.names ∧ left.collisions ≠ right.collisions) ∧
    AgreeUpToOrder
      (run { strict := true, verbatimKeys := true } ["base", "override", "mail", "base"])
      (run { strict := true, verbatimKeys := true } ["base", "mail", "override", "base"]) ∧
    run { strict := true, verbatimKeys := true } ["base", "mail", "override", "base"] =
      .error (.unfilled "EXTRA") := by
  intro register run
  let secrets (service : String) : SecretSet := .ofPairs ((register.lookup service).getD [])
  have hfetch : ∀ service ∈ ["base", "override", "mail", "base"],
      register.source service .verbatim = .ok (secrets service) := by
    simp only [List.forall_mem_cons]
    exact ⟨rfl, rfl, rfl, rfl, nofun⟩
  have hdisjoint : List.Disjoint (secrets "override").names (secrets "mail").names := by
    have hnames : ∀ name ∈ (secrets "override").names, name ∉ (secrets "mail").names := by decide
    exact fun name hleft hright => hnames name hleft hright
  have hlax := inject_swap_independent (.ofPairs [("PORT", "80"), ("EXTRA", "chamberme")])
    { verbatimKeys := true } register.source ["base"] ["base"] "override" "mail" secrets hfetch
    hdisjoint
  have hstrict := inject_swap_independent (.ofPairs [("PORT", "80"), ("EXTRA", "chamberme")])
    { strict := true, verbatimKeys := true } register.source ["base"] ["base"] "override" "mail"
    secrets hfetch hdisjoint
  refine ⟨?_, hstrict, rfl⟩
  rcases hlax with ⟨name, herror, -⟩ | ⟨left, right, hleft, hright, hsame, hperm⟩
  · cases herror
  · refine ⟨left, right, hleft, hright, hsame, hperm, ?_, ?_⟩
    · cases hleft
      cases hright
      decide
    · cases hleft
      cases hright
      decide

end EnvInject
