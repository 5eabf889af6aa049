import EnvInject.Proofs.Document.Tree
import EnvInject.Proofs.Secret.Parts
import Mathlib

/-!
# Documents without nesting under both key modes

A document that can be read under verbatim keys holds secrets at its top alone, so under path keys it
gives the same entries. Where these are collected as paths, each key has a name of its own, and the
secret of the name is the secret of the key.

* `Pairs.lookup_rename` : a name that is told from the others has its value under its new name;
* `Tree.childrenFound_of_verbatim`, `entries_of_verbatim` : the two modes give the same entries;
* `Secret.collect_both_modes` : the two sets that come of the same entries;
* `flat_document_modes_agree` : both together.
-/

namespace EnvInject

open Secret (Entry)

theorem Pairs.lookup_rename {α : Type} {rename : String → String} {key : String}
    {pairs : List (String × α)} (h : ∀ p ∈ pairs, rename p.1 = rename key → p.1 = key) :
    (pairs.map fun p => (rename p.1, p.2)).lookup (rename key) = pairs.lookup key := by
  induction pairs with
  | nil => rfl
  | cons p rest ih =>
    obtain ⟨k, v⟩ := p
    obtain ⟨hk, hrest⟩ := List.forall_mem_cons.1 h
    rw [List.map_cons, lookup_cons, lookup_cons, ih hrest]
    by_cases hkey : key = k
    · rw [if_pos hkey, if_pos (congrArg rename hkey)]
    · have hname : rename key ≠ rename k := fun hsame => hkey (hk hsame.symm).symm
      rw [if_neg hkey, if_neg hname]

namespace Document

variable {α : Type} {engine : Engine} {entries : List Entry}

theorem Tree.found_of_verbatim {path : String} {tree : Tree α} {scalars : List (String × α)}
    (h : tree.found .verbatim path = .ok scalars) : tree.found .paths path = .ok scalars := by
  cases tree with
  | scalar value => exact h
  | keyed value children => cases h
  | closed value inside => cases h

theorem Tree.childrenFound_of_verbatim {above : String}
    {children : List (Except Fault String × Tree α)} {scalars : List (String × α)}
    (h : childrenFound .verbatim above children = .ok scalars) :
    childrenFound .paths above children = .ok scalars := by
  induction children generalizing scalars with
  | nil => exact h
  | cons child rest ih =>
    obtain ⟨key, tree⟩ := child
    cases key with
    | error fault => cases h
    | ok key =>
      rw [childrenFound] at h ⊢
      obtain ⟨here, further, hhere, hfurther, rfl⟩ := Found.append_eq_ok h
      rw [found_of_verbatim hhere, ih hfurther]
      rfl

theorem Content.entries_of_verbatim {content : Content}
    (h : content.entries engine .verbatim = .ok entries) :
    content.entries engine .paths = .ok entries := by
  rw [entries_eq_found, found] at h ⊢
  cases htop : content.top engine with
  | error fault =>
    rw [htop] at h
    cases h
  | ok children =>
    rw [htop] at h
    dsimp only at h ⊢
    cases hfound : Tree.childrenFound .verbatim "" children with
    | error stop =>
      rw [hfound] at h
      cases h
    | ok scalars =>
      rw [hfound] at h
      rw [Tree.childrenFound_of_verbatim hfound]
      exact h

theorem textEntries_of_verbatim {format : Format} {text : String}
    (h : textEntries engine .verbatim text format = .ok entries) :
    textEntries engine .paths text format = .ok entries := by
  by_cases henv : format = .env
  · subst henv
    exact h
  · cases hread : Content.read? format text with
    | none =>
      rw [Content.textEntries_of_unread henv hread] at h
      cases h
    | some content =>
      rw [Content.textEntries_of_read? hread] at h ⊢
      exact Content.entries_of_verbatim h

theorem entries_of_verbatim {format : Format} {bytes : Bytes}
    (h : Document.entries engine .verbatim format bytes = .ok entries) :
    Document.entries engine .paths format bytes = .ok entries := by
  rw [Document.entries] at h ⊢
  cases hdecode : Utf8.decode? bytes with
  | none =>
    rw [hdecode] at h
    cases h
  | some text =>
    rw [hdecode] at h
    exact textEntries_of_verbatim h

end Document

namespace Secret

variable {service : String} {entries : List Entry} {flat set : SecretSet}

/-- What is collected under path keys is what is collected under verbatim keys, renamed. -/
theorem collect_both_modes (hflat : collect service .verbatim entries = .ok flat)
    (hset : collect service .paths entries = .ok set) :
    (∀ name, name ∈ set.names ↔ ∃ key ∈ flat.names, variableName key = name) ∧
    (∀ key ∈ flat.names, ∀ key' ∈ flat.names, variableName key = variableName key' → key = key') ∧
    ∀ key ∈ flat.names, set.get? (variableName key) = flat.get? key := by
  have hkeys (key : String) : key ∈ flat.names ↔ key ∈ entries.map Prod.fst := by
    rw [mem_names_collect_iff hflat, List.mem_map]
    rfl
  have haccepted : Accepted (entries.map Prod.fst) := (collect_eq_ok_iff.1 hset).1 rfl
  refine ⟨fun name => ?_, fun key hkey key' hkey' => ?_, fun key hkey => ?_⟩
  · rw [mem_names_collect_iff hset]
    constructor
    · rintro ⟨entry, hentry, rfl⟩
      exact ⟨entry.1, (hkeys _).2 (List.mem_map_of_mem hentry), rfl⟩
    · rintro ⟨key, hkey, rfl⟩
      obtain ⟨entry, hentry, rfl⟩ := List.mem_map.1 ((hkeys key).1 hkey)
      exact ⟨entry, hentry, rfl⟩
  · exact haccepted.unambiguous key ((hkeys key).1 hkey) key' ((hkeys key').1 hkey')
  · obtain ⟨-, rfl⟩ := collect_eq_ok_iff.1 hflat
    obtain ⟨-, rfl⟩ := collect_eq_ok_iff.1 hset
    have hother : ∀ p ∈ entries.reverse, variableName p.1 = variableName key → p.1 = key := by
      intro p hp
      have hpath : p.1 ∈ entries.map Prod.fst := List.mem_map_of_mem (List.mem_reverse.1 hp)
      exact haccepted.unambiguous p.1 hpath key ((hkeys key).1 hkey)
    rw [SecretSet.get?_ofPairs_last, SecretSet.get?_ofPairs_last, map_entryUnder_verbatim,
      ← List.map_reverse]
    exact Pairs.lookup_rename hother

end Secret

open Secret in
/-- **A document that can be read under verbatim keys gives the same secrets under path keys**, each
under the name that its key stands for. -/
theorem Document.flat_document_modes_agree {engine : Engine} {format : Format} {bytes : Bytes}
    {entries : List Entry} (h : Document.entries engine .verbatim format bytes = .ok entries) :
    Document.entries engine .paths format bytes = .ok entries ∧
    ∀ service set, collect service .paths entries = .ok set →
      ∃ flat, collect service .verbatim entries = .ok flat ∧
        (∀ name, name ∈ set.names ↔ ∃ key ∈ flat.names, variableName key = name) ∧
        (∀ key ∈ flat.names, ∀ key' ∈ flat.names,
          variableName key = variableName key' → key = key') ∧
        ∀ key ∈ flat.names, set.get? (variableName key) = flat.get? key := by
  refine ⟨entries_of_verbatim h, fun service set hset => ?_⟩
  have hflat : collect service .verbatim entries = .ok (.ofPairs entries) := rfl
  exact ⟨_, hflat, collect_both_modes hflat hset⟩

/-- A document with a number and its text as keys. -/
def portsText : String := "8080: one\ndb-host: local\n\"8080\": two\n"

theorem Document.flat_document_modes_agree_mixed_keys :
    Document.entries .file .paths .yaml (Utf8.encode portsText) =
      .ok [("8080", "one"), ("db-host", "local"), ("8080", "two")] ∧
    ∃ set, Secret.collect "app" .paths [("8080", "one"), ("db-host", "local"), ("8080", "two")] =
        .ok set ∧
      set.get? "8080" = some "two" ∧ set.get? "DB_HOST" = some "local" := by
  have hflat : Document.entries .file .verbatim .yaml (Utf8.encode portsText) =
      .ok [("8080", "one"), ("db-host", "local"), ("8080", "two")] := by
    decide +kernel
  have hset : Secret.collect "app" .paths
      [("8080", "one"), ("db-host", "local"), ("8080", "two")] =
        .ok (.ofPairs [("8080", "two"), ("DB_HOST", "local")]) := rfl
  obtain ⟨hpaths, hmodes⟩ := Document.flat_document_modes_agree hflat
  obtain ⟨flat, hcollect, -, -, hvalues⟩ := hmodes "app" _ hset
  cases hcollect
  refine ⟨hpaths, _, hset, ?_, ?_⟩
  · exact hvalues "8080" (by decide)
  · exact hvalues "db-host" (by decide)

end EnvInject
