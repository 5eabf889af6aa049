import EnvInject.Proofs.Document.Tree
import EnvInject.Proofs.Secret.Collecting
import Mathlib

/-!
# The leaves of a document

A leaf is a scalar with the keys that lead to it. Joined by slashes the keys are the leaf's path,
which stands for a variable name. Two leaves may have one path, when a key has a slash in it or when
a number or truth value is a key beside its own text.

* `Tree.scalars`, `Content.leaves` : the leaves of a tree and of a document;
* `entries_eq_leaves` : a document that gives entries gives one for each leaf;
* `source_keeps_leaves` : fetching a service keeps the leaves of its document apart, as far as their
  paths differ;
* `source_loses_leaf` : of two leaves with one path the later one is what is fetched.
-/

namespace EnvInject

namespace Document

open Secret (Entry)

variable {α : Type}

namespace Tree

mutual

/-- The scalars of a tree with the keys that lead to them from `keys` on. -/
def scalars (keys : List String) : Tree α → List (List String × α)
  | scalar value => [(keys, value)]
  | keyed _ children => childrenScalars keys children
  | closed _ inside => insideScalars keys 0 inside

/-- The scalars of children; a key that is no text counts as empty. -/
def childrenScalars (keys : List String) :
    List (Except Fault String × Tree α) → List (List String × α)
  | [] => []
  | (key, tree) :: rest =>
    scalars (keys ++ [key.toOption.getD ""]) tree ++ childrenScalars keys rest

/-- The scalars of the values inside, which have their positions for keys. -/
def insideScalars (keys : List String) (position : Nat) : List (Tree α) → List (List String × α)
  | [] => []
  | tree :: rest =>
    scalars (keys ++ [toString position]) tree ++ insideScalars keys (position + 1) rest

end

def atPath (scalar : List String × α) : String × α := ("/".intercalate scalar.1, scalar.2)

/-- What stands before a key whose parents are `keys`. -/
def aboveText : List String → String
  | [] => ""
  | key :: rest => "/".intercalate (key :: rest) ++ "/"

theorem intercalate_concat (keys : List String) (key : String) :
    "/".intercalate (keys ++ [key]) = aboveText keys ++ key := by
  cases keys with
  | nil => simp [aboveText]
  | cons first rest =>
    rw [String.intercalate_append_of_ne_nil (List.cons_ne_nil _ _) (List.cons_ne_nil _ _),
      String.intercalate_singleton, aboveText]

theorem aboveText_concat (keys : List String) (key : String) :
    aboveText (keys ++ [key]) = "/".intercalate (keys ++ [key]) ++ "/" := by
  cases keys <;> rfl

mutual

/-- What is found in the tree below a key are its scalars. -/
theorem found_eq_scalars (keys : List String) (key : String) :
    (tree : Tree α) → {scalars' : List (String × α)} →
      tree.found .paths ("/".intercalate (keys ++ [key])) = .ok scalars' →
        scalars' = (tree.scalars (keys ++ [key])).map atPath
  | scalar value, _, h => (Except.ok.inj h).symm
  | keyed value children, _, h => by
    rw [found, ← aboveText_concat] at h
    exact childrenFound_eq_scalars (keys ++ [key]) children h

theorem childrenFound_eq_scalars (keys : List String) :
    (children : List (Except Fault String × Tree α)) → {scalars' : List (String × α)} →
      childrenFound .paths (aboveText keys) children = .ok scalars' →
        scalars' = (childrenScalars keys children).map atPath
  | [], _, h => (Except.ok.inj h).symm
  | (.ok key, tree) :: rest, _, h => by
    rw [childrenFound, ← intercalate_concat] at h
    obtain ⟨here, further, hhere, hfurther, rfl⟩ := Found.append_eq_ok h
    rw [childrenScalars, List.map_append, found_eq_scalars keys key tree hhere,
      childrenFound_eq_scalars keys rest hfurther]
    rfl

end

end Tree

structure Leaf where
  /-- The keys that lead to it from the top. -/
  keys : List String
  text : String
  deriving DecidableEq, Repr

namespace Leaf

def path (leaf : Leaf) : String := "/".intercalate leaf.keys

def name (leaf : Leaf) : String := Secret.variableName leaf.path

def entry (leaf : Leaf) : Entry := (leaf.path, leaf.text)

end Leaf

/-- The leaves of a document: its strings, numbers and truth values, in order. -/
def Content.leaves (content : Content) : List Leaf :=
  (content.tree.scalars []).map fun p => ⟨p.1, p.2.scalarText⟩

theorem Content.scalars_of_top {content : Content}
    {children : List (Except Fault String × Tree Content)} (h : content.top .file = .ok children) :
    content.tree.scalars [] = Tree.childrenScalars [] children := by
  cases content with
  | json value => cases value <;> cases h <;> rfl
  | yaml value => cases value <;> cases h <;> rfl

/-- A document that gives entries gives one for each leaf, in order. -/
theorem Content.entries_eq_leaves {content : Content} {entries : List Entry}
    (h : content.entries .file .paths = .ok entries) :
    entries = content.leaves.map Leaf.entry := by
  rw [entries_eq_found, found] at h
  cases htop : content.top .file with
  | error fault =>
    rw [htop] at h
    cases h
  | ok children =>
    rw [htop] at h
    dsimp only at h
    cases hfound : Tree.childrenFound .paths "" children with
    | error stop =>
      rw [hfound] at h
      cases h
    | ok scalars =>
      rw [hfound] at h
      cases h
      rw [Tree.childrenFound_eq_scalars [] children hfound, leaves, scalars_of_top htop,
        List.map_map, List.map_map]
      rfl

open Secret

section Clash
variable {service : String} {leaves : List Leaf}

theorem map_fst_entries (leaves : List Leaf) :
    (leaves.map Leaf.entry).map Prod.fst = leaves.map Leaf.path := by
  rw [List.map_map]
  rfl

theorem map_fst_named (leaves : List Leaf) :
    ((leaves.map Leaf.entry).map named).map Prod.fst =
      (leaves.map Leaf.path).map variableName := by
  rw [List.map_map, List.map_map, List.map_map]
  rfl

/-- Leaves that are collected keep apart as far as their paths differ. -/
theorem leaves_of_collect {set : SecretSet}
    (h : collect service .paths (leaves.map Leaf.entry) = .ok set) :
    (∀ name, name ∈ set.names ↔ ∃ leaf ∈ leaves, leaf.name = name) ∧
    (set.entries.length = leaves.length ↔ (leaves.map Leaf.path).Nodup) ∧
    ((leaves.map Leaf.path).Nodup → ∀ leaf ∈ leaves, set.get? leaf.name = some leaf.text) := by
  obtain ⟨haccepted, rfl⟩ := collect_paths_eq_ok_iff.1 h
  rw [map_fst_entries] at haccepted
  have hnames : (((leaves.map Leaf.entry).map named).map Prod.fst).Nodup ↔
      (leaves.map Leaf.path).Nodup := by
    rw [map_fst_named]
    exact haccepted.nodup_names_iff
  refine ⟨fun name => ?_, ?_, fun hnodup leaf hleaf => ?_⟩
  · rw [SecretSet.mem_names_ofPairs, map_fst_named, List.map_map, List.mem_map]
    rfl
  · rw [← hnames, ← SecretSet.length_ofPairs_eq_iff, List.length_map, List.length_map]
  · rw [SecretSet.get?_ofPairs (hnames.2 hnodup), Pairs.lookup_eq_some_iff (hnames.2 hnodup),
      List.map_map]
    exact List.mem_map_of_mem hleaf

/-- Leaves that all have names, and one name only with one path, are collected. -/
theorem collect_of_distinct (hnamed : ∀ leaf ∈ leaves, leaf.name ≠ "")
    (hpaths : ∀ first ∈ leaves, ∀ second ∈ leaves,
      first.name = second.name → first.path = second.path) :
    ∃ set, collect service .paths (leaves.map Leaf.entry) = .ok set := by
  refine ⟨_, collect_paths_eq_ok_iff.2 ⟨?_, rfl⟩⟩
  rw [map_fst_entries]
  exact (accepted_map_iff Leaf.path leaves).2 ⟨hnamed, hpaths⟩

/-- Two leaves with different paths and one name are not collected. -/
theorem collect_of_clash {first second : Leaf} (hfirst : first ∈ leaves)
    (hsecond : second ∈ leaves) (hname : first.name = second.name)
    (hpath : first.path ≠ second.path) :
    ∃ e, collect service .paths (leaves.map Leaf.entry) = .error e ∧
      ((∀ leaf ∈ leaves, leaf.name ≠ "") →
        ∃ p ∈ leaves, ∃ q ∈ leaves, p.name = q.name ∧ p.path ≠ q.path ∧
          e = .nameClash service q.name p.path q.path) := by
  cases hcollect : collect service .paths (leaves.map Leaf.entry) with
  | ok set =>
    obtain ⟨haccepted, -⟩ := collect_paths_eq_ok_iff.1 hcollect
    rw [map_fst_entries] at haccepted
    exact absurd (haccepted.unambiguous _ (List.mem_map_of_mem hfirst) _
      (List.mem_map_of_mem hsecond) hname) hpath
  | error e =>
    refine ⟨e, rfl, fun hnamed => ?_⟩
    obtain ⟨before, path, value, after, hsplit, -, hbreaks⟩ := collect_paths_eq_error hcollect
    have hmem : (path, value) ∈ leaves.map Leaf.entry := by simp [hsplit]
    obtain ⟨q, hq, hqentry⟩ := List.mem_map.1 hmem
    have hqpath : q.path = path := congrArg Prod.fst hqentry
    cases hbreaks with
    | nameless hempty =>
      subst hqpath
      exact absurd hempty (hnamed q hq)
    | clash p' _ hseen hsame hne =>
      obtain ⟨entry, hentry, rfl⟩ := List.mem_map.1 hseen
      have hentry' : entry ∈ leaves.map Leaf.entry := by simp [hsplit, hentry]
      obtain ⟨p, hp, rfl⟩ := List.mem_map.1 hentry'
      subst hqpath
      exact ⟨p, hp, q, hq, hsame, hne, rfl⟩

end Clash

end Document

open Document

/-- **Secrets are kept apart as far as their paths differ.** -/
theorem Store.source_keeps_leaves {store : Store} {host : Host} {service : String}
    {content : Content} (hholds : store.Holds host service content) (hfile : store.engine = .file) :
    (∀ set, store.source host service .paths = .ok set →
      (∀ name, name ∈ set.names ↔ ∃ leaf ∈ content.leaves, leaf.name = name) ∧
      (set.entries.length = content.leaves.length ↔ (content.leaves.map Leaf.path).Nodup) ∧
      ((content.leaves.map Leaf.path).Nodup →
        ∀ leaf ∈ content.leaves, set.get? leaf.name = some leaf.text)) ∧
    (∀ first ∈ content.leaves, ∀ second ∈ content.leaves,
      first.name = second.name → first.path ≠ second.path →
      ∃ e, store.source host service .paths = .error e ∧
        ∀ entries, content.entries .file .paths = .ok entries →
          (∀ leaf ∈ content.leaves, leaf.name ≠ "") →
          ∃ p ∈ content.leaves, ∃ q ∈ content.leaves, p.name = q.name ∧ p.path ≠ q.path ∧
            e = .nameClash service q.name p.path q.path) ∧
    ∀ entries, content.entries .file .paths = .ok entries →
      (∀ leaf ∈ content.leaves, leaf.name ≠ "") →
      (∀ first ∈ content.leaves, ∀ second ∈ content.leaves,
        first.name = second.name → first.path = second.path) →
      ∃ set, store.source host service .paths = .ok set := by
  rw [Store.source_of_holds hholds, hfile]
  cases hentries : content.entries .file .paths with
  | error fault =>
    rw [Content.secrets_of_fault hentries]
    exact ⟨nofun, fun _ _ _ _ _ _ => ⟨_, rfl, nofun⟩, nofun⟩
  | ok entries =>
    rw [Content.secrets_of_entries hentries, Content.entries_eq_leaves hentries]
    refine ⟨fun set => leaves_of_collect, fun first hfirst second hsecond hname hpath => ?_,
      fun _ _ => collect_of_distinct⟩
    obtain ⟨e, herror, hclash⟩ := collect_of_clash hfirst hsecond hname hpath
    exact ⟨e, herror, fun _ _ => hclash⟩

/-- A document with two leaves under one key. -/
def nestedText : String := "\x7b\"db\":\x7b\"key\":\"one\",\"tls\":true\x7d\x7d"

def nestedJson : Json := .object [("db", .object [("key", .string "one"), ("tls", .bool true)])]

/-- A document with two paths that stand for one name. -/
def clashingText : String := "\x7b\"a\":\x7b\"b\":\"two\"\x7d,\"a-b\":\"one\"\x7d"

def clashingJson : Json := .object [("a", .object [("b", .string "two")]), ("a-b", .string "one")]

theorem Store.source_keeps_leaves_two_documents :
    (∃ set, sampleStore.source (sampleHost nestedText) "app" .paths = .ok set ∧
      set.entries.length = 2 ∧ set.get? "DB_KEY" = some "one" ∧
      set.get? "DB_TLS" = some "true") ∧
    ∃ name first second, sampleStore.source (sampleHost clashingText) "app" .paths =
      .error (.nameClash "app" name first second) := by
  constructor
  · have hholds : sampleStore.Holds (sampleHost nestedText) "app" (.json nestedJson) :=
      sampleStore_holds (by cbv) (by cbv)
    have hsource : sampleStore.source (sampleHost nestedText) "app" .paths =
        .ok (.ofPairs [("DB_KEY", "one"), ("DB_TLS", "true")]) := by
      rw [Store.source_of_holds hholds]
      rfl
    have hleaves : Content.leaves (.json nestedJson) =
        [⟨["db", "key"], "one"⟩, ⟨["db", "tls"], "true"⟩] := rfl
    have hkeeps := ((Store.source_keeps_leaves hholds rfl).1 _ hsource).2
    rw [hleaves] at hkeeps
    obtain ⟨hlength, hvalues⟩ := hkeeps
    refine ⟨_, hsource, hlength.2 (by decide), ?_, ?_⟩
    · exact hvalues (by decide) ⟨["db", "key"], "one"⟩ (by decide)
    · exact hvalues (by decide) ⟨["db", "tls"], "true"⟩ (by decide)
  · have hholds : sampleStore.Holds (sampleHost clashingText) "app" (.json clashingJson) :=
      sampleStore_holds (by cbv) (by cbv)
    have hleaves : Content.leaves (.json clashingJson) =
        [⟨["a", "b"], "two"⟩, ⟨["a-b"], "one"⟩] := rfl
    have hentries : Content.entries .file .paths (.json clashingJson) =
        .ok [("a/b", "two"), ("a-b", "one")] := rfl
    have hclash := (Store.source_keeps_leaves hholds rfl).2.1
    rw [hleaves] at hclash
    obtain ⟨e, herror, hshape⟩ :=
      hclash ⟨["a", "b"], "two"⟩ (by decide) ⟨["a-b"], "one"⟩ (by decide) (by decide) (by decide)
    obtain ⟨p, -, q, -, -, -, rfl⟩ := hshape _ hentries (by decide)
    exact ⟨_, _, _, herror⟩

/-- A document with two leaves that have one path. -/
def slashedText : String := "\x7b\"a\":\x7b\"b\":\"two\"\x7d,\"a/b\":\"one\"\x7d"

def slashedJson : Json := .object [("a", .object [("b", .string "two")]), ("a/b", .string "one")]

/-- Of two leaves with one path the later one is what is fetched, and nothing tells of the other. -/
theorem Store.source_loses_leaf :
    sampleStore.Holds (sampleHost slashedText) "app" (.json slashedJson) ∧
    Content.leaves (.json slashedJson) = [⟨["a", "b"], "two"⟩, ⟨["a/b"], "one"⟩] ∧
    ∃ set, sampleStore.source (sampleHost slashedText) "app" .paths = .ok set ∧
      set.entries = [("A_B", "one")] := by
  have hholds : sampleStore.Holds (sampleHost slashedText) "app" (.json slashedJson) :=
    sampleStore_holds (by cbv) (by cbv)
  refine ⟨hholds, rfl, .ofPairs [("A_B", "one")], ?_, rfl⟩
  rw [Store.source_of_holds hholds]
  rfl

end EnvInject
