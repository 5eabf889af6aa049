import EnvInject.Json.Reader

/-!
# Objects that were read

Whatever the order of the members in the text, an object that was read has them by ascending key, at
every depth, and each key once.

* `Sorted` : all objects of a value are in order;
* `PlainTokens`, `plain_tokensFrom` : a token that is a value holds no object;
* `Open.Sorted` : the same of what the containers hold that are open;
* `sorted_of_read?` : what is read is in order.
-/

namespace EnvInject.Json

/-- In every object of the value the members ascend by key. -/
inductive Sorted : Json → Prop where
  | null : Sorted .null
  | bool (b : Bool) : Sorted (.bool b)
  | number (n : Number) : Sorted (.number n)
  | string (s : String) : Sorted (.string s)
  | array {items : List Json} (h : ∀ item ∈ items, Sorted item) : Sorted (.array items)
  | object {members : List (String × Json)} (hkeys : Ordered.Ascending members)
    (h : ∀ member ∈ members, Sorted member.2) : Sorted (.object members)

theorem Sorted.put {key : String} {value : Json} {members : List (String × Json)}
    (hvalue : Sorted value) (h : ∀ member ∈ members, Sorted member.2) :
    ∀ member ∈ Ordered.put key value members, Sorted member.2 := by
  intro member hmember
  rcases Ordered.mem_put hmember with rfl | hmem
  · exact hvalue
  · exact h member hmem

/-! ## Tokens -/

/-- The values among the tokens are in order. -/
def PlainTokens (tokens : List Token) : Prop := ∀ value, Token.scalar value ∈ tokens → Sorted value

theorem PlainTokens.nil : PlainTokens [] := nofun

theorem PlainTokens.append {xs ys : List Token} (hx : PlainTokens xs) (hy : PlainTokens ys) :
    PlainTokens (xs ++ ys) := fun value h =>
  (List.mem_append.1 h).elim (hx value) (hy value)

theorem PlainTokens.tail {token : Token} {tokens : List Token} (h : PlainTokens (token :: tokens)) :
    PlainTokens tokens := fun value hmem => h value (List.mem_cons_of_mem _ hmem)

theorem PlainTokens.head {value : Json} {tokens : List Token}
    (h : PlainTokens (.scalar value :: tokens)) : Sorted value := h value List.mem_cons_self

theorem plain_singleton {token : Token} (h : ∀ value, token = .scalar value → Sorted value) :
    PlainTokens [token] := fun value hmem => h value (List.mem_singleton.1 hmem).symm

theorem plain_word {s : String} {token : Token} (h : word? s = some token) :
    PlainTokens [token] := by
  unfold word? at h
  split at h <;> cases h <;> refine plain_singleton fun value heq => ?_ <;> cases heq
  · exact .null
  · exact .bool true
  · exact .bool false

theorem plain_finish {reading : Reading} {tokens : List Token} (h : finish reading = some tokens) :
    PlainTokens tokens := by
  unfold finish at h
  split at h
  · cases h
    exact .nil
  · obtain ⟨n, -, rfl⟩ := Option.map_eq_some_iff.1 h
    refine plain_singleton fun value heq => ?_
    cases heq
    exact .number n
  · obtain ⟨token, hword, rfl⟩ := Option.map_eq_some_iff.1 h
    exact plain_word hword
  · cases h

/-- The tokens that a step of reading gives, if it succeeds, are plain. -/
def GivesPlain (step : Option (List Token × Reading)) : Prop :=
  ∀ tokens next, step = some (tokens, next) → PlainTokens tokens

theorem GivesPlain.none : GivesPlain none := nofun

theorem GivesPlain.some {tokens : List Token} (h : PlainTokens tokens) (next : Reading) :
    GivesPlain (some (tokens, next)) := by
  rintro _ _ ⟨⟩
  exact h

theorem GivesPlain.ite {p : Prop} [Decidable p] {step step' : Option (List Token × Reading)}
    (h : GivesPlain step) (h' : GivesPlain step') : GivesPlain (if p then step else step') := by
  split
  · exact h
  · exact h'

theorem GivesPlain.map {α : Type} (next : α → Reading) (result : Option α) :
    GivesPlain (result.map fun a => ([], next a)) := by
  cases result with
  | none => exact .none
  | some a => exact .some .nil (next a)

theorem GivesPlain.bind {α : Type} {result : Option α} {step : α → Option (List Token × Reading)}
    (h : ∀ a, GivesPlain (step a)) : GivesPlain (result.bind step) := by
  cases result with
  | none => exact .none
  | some a => exact h a

theorem plain_start (c : Char) : GivesPlain (start c) := by
  unfold start
  iterate 7 refine .ite (.some (by intro value hmem; simp at hmem) _) ?_
  iterate 3 refine .ite (.some .nil _) ?_
  exact .none

/-- A character after a number or a word ends it and starts something else. -/
theorem plain_finish_start (reading : Reading) (c : Char) :
    GivesPlain (do
      let done ← finish reading
      let (tokens, reading) ← start c
      pure (done ++ tokens, reading)) := by
  intro tokens next h
  obtain ⟨done, hdone, h⟩ := Option.bind_eq_some_iff.1 h
  obtain ⟨⟨started, reading'⟩, hstart, h⟩ := Option.bind_eq_some_iff.1 h
  cases h
  exact (plain_finish hdone).append (plain_start c _ _ hstart)

theorem plain_readChar (reading : Reading) (c : Char) : GivesPlain (readChar reading c) := by
  cases reading with
  | between => exact plain_start c
  | string seen =>
    have htext : PlainTokens [.text (String.ofList seen.reverse)] :=
      plain_singleton fun value heq => by cases heq
    exact .ite (.some htext _) (.ite (.some .nil _) (.ite .none (.some .nil _)))
  | escape seen => exact .ite (.some .nil _) (.map _ _)
  | unicode seen high digits value => exact .bind fun digit => .ite (.map _ _) (.some .nil _)
  | pairBackslash seen high => exact .ite (.some .nil _) .none
  | pairU seen high => exact .ite (.some .nil _) .none
  | number seen => exact .ite (.some .nil _) (plain_finish_start (.number seen) c)
  | word seen => exact .ite (.some .nil _) (plain_finish_start (.word seen) c)

theorem plain_tokensFrom {reading : Reading} {cs : List Char} {tokens : List Token}
    (h : tokensFrom reading cs = some tokens) : PlainTokens tokens := by
  induction cs generalizing reading tokens with
  | nil => exact plain_finish h
  | cons c rest ih =>
    obtain ⟨⟨here, next⟩, hhere, h⟩ := Option.bind_eq_some_iff.1 h
    obtain ⟨further, hfurther, h⟩ := Option.bind_eq_some_iff.1 h
    cases h
    exact (plain_readChar reading c _ _ hhere).append (ih hfurther)

/-! ## Values -/

/-- What an open container holds so far is in order. -/
def Open.Sorted : Open → Prop
  | array items => ∀ item ∈ items, item.Sorted
  | object members _ => Ordered.Ascending members ∧ ∀ member ∈ members, member.2.Sorted

/-- Reading on from containers in order gives a value in order, at the start of a value and after
one. -/
theorem sorted_of_value? :
    (∀ outer tokens, (∀ container ∈ outer, container.Sorted) → PlainTokens tokens →
      ∀ result, value? outer tokens = some result → Sorted result) ∧
    ∀ outer value tokens, (∀ container ∈ outer, container.Sorted) → Sorted value →
      PlainTokens tokens → ∀ result, after? outer value tokens = some result → Sorted result := by
  apply value?.mutual_induct
    (fun outer tokens => (∀ container ∈ outer, container.Sorted) → PlainTokens tokens →
      ∀ result, value? outer tokens = some result → Sorted result)
    (fun outer value tokens => (∀ container ∈ outer, container.Sorted) → Sorted value →
      PlainTokens tokens → ∀ result, after? outer value tokens = some result → Sorted result)
  · -- a scalar
    intro outer value rest ih houter htokens result h
    rw [value?] at h
    exact ih houter htokens.head htokens.tail result h
  · -- a string
    intro outer s rest ih houter htokens result h
    rw [value?] at h
    exact ih houter (.string s) htokens.tail result h
  · -- an array beyond the limit
    intro outer rest hdeep houter htokens result h
    rw [value?.eq_def] at h
    dsimp only at h
    rw [if_pos hdeep] at h
    cases h
  · -- an empty array
    intro outer hdeep rest ih houter htokens result h
    rw [value?, if_neg hdeep] at h
    exact ih houter (.array nofun) htokens.tail.tail result h
  · -- the first item of an array
    intro outer hdeep rest hne ih houter htokens result h
    rw [value?, if_neg hdeep] at h
    · exact ih (List.forall_mem_cons.2 ⟨nofun, houter⟩) htokens.tail result h
    · exact hne
  · -- an object beyond the limit
    intro outer rest hdeep houter htokens result h
    rw [value?.eq_def] at h
    dsimp only at h
    rw [if_pos hdeep] at h
    cases h
  · -- an empty object
    intro outer hdeep rest ih houter htokens result h
    rw [value?, if_neg hdeep] at h
    exact ih houter (.object Ordered.ascending_nil nofun) htokens.tail.tail result h
  · -- the first member of an object
    intro outer hdeep key rest ih houter htokens result h
    rw [value?, if_neg hdeep] at h
    refine ih (List.forall_mem_cons.2 ⟨⟨Ordered.ascending_nil, nofun⟩, houter⟩) ?_ result h
    exact htokens.tail.tail.tail
  · -- an object that starts with something else
    intro outer rest hdeep hclose hkey houter htokens result h
    rw [value?, if_neg hdeep] at h
    · cases h
    · exact hclose
    · exact hkey
  · -- nothing that a value starts with
    intro tokens outer hscalar htext harray hobject houter htokens result h
    rw [value?] at h
    · cases h
    all_goals assumption
  · -- the end of the text
    intro value houter hvalue htokens result h
    rw [after?] at h
    cases h
    exact hvalue
  · -- a further item
    intro items outer value rest ih houter hvalue htokens result h
    rw [after?] at h
    obtain ⟨hitems, houter⟩ := List.forall_mem_cons.1 houter
    exact ih (List.forall_mem_cons.2 ⟨List.forall_mem_cons.2 ⟨hvalue, hitems⟩, houter⟩)
      htokens.tail result h
  · -- the end of an array
    intro items outer value rest ih houter hvalue htokens result h
    rw [after?] at h
    obtain ⟨hitems, houter⟩ := List.forall_mem_cons.1 houter
    refine ih houter (.array fun item hitem => ?_) htokens.tail result h
    exact List.forall_mem_cons.2 ⟨hvalue, hitems⟩ item (List.mem_reverse.1 hitem)
  · -- a further member
    intro members key outer value next rest ih houter hvalue htokens result h
    rw [after?] at h
    obtain ⟨⟨hkeys, hmembers⟩, houter⟩ := List.forall_mem_cons.1 houter
    refine ih (List.forall_mem_cons.2 ⟨?_, houter⟩) htokens.tail.tail.tail result h
    exact ⟨Ordered.ascending_put hkeys, hvalue.put hmembers⟩
  · -- the end of an object
    intro members key outer value rest ih houter hvalue htokens result h
    rw [after?] at h
    obtain ⟨⟨hkeys, hmembers⟩, houter⟩ := List.forall_mem_cons.1 houter
    refine ih houter (.object ?_ ?_) htokens.tail result h
    · exact Ordered.ascending_put hkeys
    · exact hvalue.put hmembers
  · -- nothing that may follow a value
    intro tokens outer value hend hcomma hclose hnext hclosed houter hvalue htokens result h
    rw [after?] at h
    · cases h
    all_goals assumption

theorem sorted_of_read? {text : String} {value : Json} (h : read? text = some value) :
    Sorted value := by
  obtain ⟨tokens, htokens, hvalue⟩ := Option.bind_eq_some_iff.1 h
  exact sorted_of_value?.1 [] tokens nofun (plain_tokensFrom htokens) value hvalue

end EnvInject.Json
