import EnvInject.Pairs
import EnvInject.Text.Quoted
import EnvInject.Text.Utf8

/-!
# Environments

An environment is a list of variables with distinct names. Setting a variable that exists keeps its
place; a new one goes to the end. Its value is a secret once an injection has run, so the
environment's own description shows names only.

* `Environment.exchange`, `insert` : set a variable (`names_insert`, `get?_insert`,
  `pairs_insert_of_notMem`);
* `Environment.ofPairs`, `capture` : from pairs (`pairs_ofPairs`), and from the variables of a process;
* `Environment.sameVariables` : equality of the mappings, whatever the order;
* `Environment.rendered`, `described` : `NAME=value` texts, and the description without values.
-/

namespace EnvInject

/-- Variables in order, each name once. -/
structure Environment where
  /-- The variables as name and value, in order. -/
  pairs : List (String × String)
  nodup : (pairs.map Prod.fst).Nodup := by simp

namespace Environment

def empty : Environment where
  pairs := []

def names (env : Environment) : List String := env.pairs.map Prod.fst

def get? (env : Environment) (name : String) : Option String := env.pairs.lookup name

def contains (env : Environment) (name : String) : Bool := (env.get? name).isSome

def size (env : Environment) : Nat := env.pairs.length

/-- Sets a variable and returns its value before. -/
def exchange (env : Environment) (name value : String) : Option String × Environment :=
  ((Pairs.exchange name value env.pairs).1,
    ⟨(Pairs.exchange name value env.pairs).2, Pairs.nodup_exchange env.nodup⟩)

/-- Sets a variable: in place if it exists, else at the end. -/
def insert (env : Environment) (name value : String) : Environment := (env.exchange name value).2

def erase (env : Environment) (name : String) : Environment where
  pairs := env.pairs.filter (·.1 != name)
  nodup := (List.filter_sublist.map Prod.fst).nodup env.nodup

/-- The environment that results from setting the pairs one after the other. -/
def ofPairs (pairs : List (String × String)) : Environment :=
  pairs.foldl (fun env p => env.insert p.1 p.2) empty

/-- Whether both hold the same variables with the same values, in whatever order. -/
def sameVariables (env other : Environment) : Bool :=
  env.size == other.size && env.pairs.all fun p => other.get? p.1 == some p.2

/-- The variables as `NAME=value`, in order. -/
def rendered (env : Environment) : List String := env.pairs.map fun p => p.1 ++ "=" ++ p.2

/-- The number and the names of the variables, without any value. -/
def described (env : Environment) : String :=
  "Environment \x7b len: " ++ toString env.size ++ ", names: " ++ Text.quoteList env.names ++
    ", values: " ++ Text.quote "[REDACTED]" ++ " \x7d"

@[simp] theorem names_empty : empty.names = [] := rfl

@[simp] theorem get?_empty (name : String) : empty.get? name = none := rfl

theorem names_insert (env : Environment) (name value : String) :
    (env.insert name value).names =
      if name ∈ env.names then env.names else env.names ++ [name] :=
  Pairs.names_exchange name value env.pairs

theorem get?_insert (env : Environment) (name value k : String) :
    (env.insert name value).get? k = if k = name then some value else env.get? k :=
  Pairs.lookup_exchange name value k env.pairs

theorem exchange_fst (env : Environment) (name value : String) :
    (env.exchange name value).1 = env.get? name :=
  Pairs.exchange_fst name value env.pairs

theorem get?_eq_none_iff (env : Environment) (name : String) :
    env.get? name = none ↔ name ∉ env.names :=
  Pairs.lookup_eq_none_iff name env.pairs

theorem contains_iff (env : Environment) (name : String) :
    env.contains name = true ↔ name ∈ env.names := by
  rw [contains, Option.isSome_iff_ne_none, Ne, get?_eq_none_iff, Decidable.not_not]

/-- A new variable goes to the end. -/
theorem pairs_insert_of_notMem {env : Environment} {name : String} (value : String)
    (h : name ∉ env.names) : (env.insert name value).pairs = env.pairs ++ [(name, value)] :=
  Pairs.exchange_of_notMem value h

theorem get?_eq_some_iff (env : Environment) (name value : String) :
    env.get? name = some value ↔ (name, value) ∈ env.pairs :=
  Pairs.lookup_eq_some_iff env.nodup name value

theorem pairs_foldl_insert {pairs : List (String × String)} (env : Environment)
    (h : (env.names ++ pairs.map Prod.fst).Nodup) :
    (pairs.foldl (fun acc p => acc.insert p.1 p.2) env).pairs = env.pairs ++ pairs := by
  induction pairs generalizing env with
  | nil => rw [List.foldl_nil, List.append_nil]
  | cons p rest ih =>
    have hnew : p.1 ∉ env.names := fun hm =>
      (List.nodup_append.1 h).2.2 _ hm _ List.mem_cons_self rfl
    have hnames : (env.insert p.1 p.2).names = env.names ++ [p.1] := by
      rw [names_insert, if_neg hnew]
    rw [List.foldl_cons, ih, pairs_insert_of_notMem p.2 hnew, List.append_assoc,
      List.singleton_append]
    rw [hnames, List.append_assoc]
    exact h

/-- Pairs with distinct names are an environment as they are. -/
theorem pairs_ofPairs {pairs : List (String × String)} (h : (pairs.map Prod.fst).Nodup) :
    (ofPairs pairs).pairs = pairs :=
  pairs_foldl_insert empty h

/-! ## The variables of a process -/

/-- Splits an entry of a process's variables, `NAME=value`. The name has at least one byte, so a
leading `=` belongs to it; an entry without an `=` after that is no variable. -/
def splitEntry? : Bytes → Option (Bytes × Bytes)
  | [] => none
  | first :: rest =>
    match rest.dropWhile (· != 0x3D) with
    | [] => none
    | _ :: value => some (first :: rest.takeWhile (· != 0x3D), value)

/-- What was captured, and the names of the variables that were left out. -/
structure Captured where
  environment : Environment := empty
  skipped : List String := []

/-- Takes one more entry. A variable whose name or value is not UTF-8 cannot be compared with a
secret and is left out. -/
def Captured.add (captured : Captured) (entry : Bytes) : Captured :=
  match splitEntry? entry with
  | none => captured
  | some (rawName, rawValue) =>
    match Utf8.decode? rawName, Utf8.decode? rawValue with
    | some name, some value =>
      { captured with environment := captured.environment.insert name value }
    | _, _ => { captured with skipped := captured.skipped ++ [Utf8.decodeLossy rawName] }

def capture (entries : List Bytes) : Captured := entries.foldl Captured.add {}

end Environment

end EnvInject
