import EnvInject.Proofs.Document.Content
import EnvInject.Proofs.Secret.Parts
import Mathlib

/-!
# The metadata of decrypted documents

Metadata at the top of a decrypted document is dropped. In JSON nothing else changes. In YAML the last
pair of the document takes the place of the metadata, and so comes before the pairs that it passes.
Order does not decide whether a document gives secrets, but of several values of one name the last one
counts: the secrets change just if the last pair and one that it passes disagree.

* `JsonSecrets.filter_of_notMem`, `YamlSecrets.removeKey_of_notMem` : without metadata nothing is
  taken out;
* `lastFirst`, `YamlSecrets.removeKey_beside` : what taking the metadata out does to the pairs;
* `pairsLeaves_append`, `pairsLeaves_perm` : the leaves of pairs in parts and in another order;
* `mappingSecrets_append`, `mappingSecrets_perm` : the same of the secrets of a mapping;
* `metadata_moves_last_pair` : what metadata changes and what it leaves;
* `metadata_changes_secret` : of two pairs that agree in a path, the earlier one prevails.
-/

namespace EnvInject.Document

open Secret (Entry)

/-- At the top of the document there is neither metadata nor a wrapper. -/
def Content.IsBare : Content → Prop
  | json (.object members) =>
    "sops" ∉ members.map Prod.fst ∧ ∀ mapping, ("data", Json.object mapping) ∉ members
  | yaml (.mapping pairs) =>
    Yaml.Value.string "sops" ∉ pairs.map Prod.fst ∧
      ∀ mapping, (Yaml.Value.string "data", Yaml.Value.mapping mapping) ∉ pairs
  | _ => False

/-! ## Taking the metadata out -/

theorem JsonSecrets.filter_of_notMem {key : String} {members : List (String × Json)}
    (h : key ∉ members.map Prod.fst) : members.filter (·.1 != key) = members := by
  apply List.filter_eq_self.2
  intro p hp
  have hne : p.1 ≠ key := fun he => h (he ▸ List.mem_map_of_mem hp)
  simpa using hne

theorem JsonSecrets.unwrap_beside {before after : List (String × Json)}
    (hbare : Content.IsBare (.json (.object (before ++ after)))) (metadata : Json) :
    unwrap (before ++ ("sops", metadata) :: after) = .ok (before ++ after) := by
  obtain ⟨hsops, hdata⟩ := hbare
  have hown : (before ++ ("sops", metadata) :: after).filter (·.1 != "sops") = before ++ after := by
    rw [List.filter_append, List.filter_cons_of_neg (by simp), ← List.filter_append,
      filter_of_notMem hsops]
  rw [unwrap, hown]
  split
  · rename_i mapping hlookup
    obtain ⟨front, back, hsplit, -⟩ := List.lookup_eq_some_iff.1 hlookup
    exact absurd (by simp [hsplit]) (hdata mapping)
  · rfl

def lastFirst {α : Type} (xs : List α) : List α := xs.getLast?.toList ++ xs.dropLast

theorem lastFirst_concat {α : Type} (xs : List α) (x : α) : lastFirst (xs ++ [x]) = x :: xs := by
  simp [lastFirst]

theorem lastFirst_perm {α : Type} (xs : List α) : (lastFirst xs).Perm xs := by
  rcases List.eq_nil_or_concat xs with rfl | ⟨front, last, rfl⟩
  · exact List.Perm.refl _
  · rw [List.concat_eq_append, lastFirst_concat]
    exact (List.perm_append_singleton last front).symm

namespace YamlSecrets

theorem hasKey_iff (key : String) (pair : Yaml.Value × Yaml.Value) :
    hasKey key pair = true ↔ pair.1 = .string key := by
  unfold hasKey
  cases pair.1 <;> simp

theorem not_hasKey_of_notMem {key : String} {pairs : List (Yaml.Value × Yaml.Value)}
    (h : Yaml.Value.string key ∉ pairs.map Prod.fst) :
    ∀ pair ∈ pairs, (!hasKey key pair) = true := by
  intro pair hpair
  rw [Bool.not_eq_true', Bool.eq_false_iff]
  intro hkey
  exact h ((hasKey_iff key pair).1 hkey ▸ List.mem_map_of_mem hpair)

theorem removeKey_of_notMem {key : String} {pairs : List (Yaml.Value × Yaml.Value)}
    (h : Yaml.Value.string key ∉ pairs.map Prod.fst) : removeKey key pairs = pairs := by
  have hother := not_hasKey_of_notMem h
  rw [removeKey, List.takeWhile_eq_self_iff.2 hother, List.dropWhile_eq_nil_iff.2 hother]
  simp

theorem removeKey_beside {key : String} {before : List (Yaml.Value × Yaml.Value)}
    (h : Yaml.Value.string key ∉ before.map Prod.fst) (value : Yaml.Value)
    (after : List (Yaml.Value × Yaml.Value)) :
    removeKey key (before ++ (.string key, value) :: after) = before ++ lastFirst after := by
  have hbefore := not_hasKey_of_notMem h
  have hhere : (!hasKey key (.string key, value)) = false := by simp [hasKey]
  rw [removeKey, List.takeWhile_append_of_pos hbefore, List.dropWhile_append_of_pos hbefore,
    List.takeWhile_cons_of_neg (by simp [hhere]), List.dropWhile_cons_of_neg (by simp [hhere]),
    List.append_nil, List.drop_one, List.tail_cons, List.append_assoc]
  rfl

theorem unwrap_beside {before after : List (Yaml.Value × Yaml.Value)}
    (hbare : Content.IsBare (.yaml (.mapping (before ++ after)))) (metadata : Yaml.Value) :
    unwrap (before ++ (.string "sops", metadata) :: after) = .ok (before ++ lastFirst after) := by
  obtain ⟨hsops, hdata⟩ := hbare
  have hbefore : Yaml.Value.string "sops" ∉ before.map Prod.fst := by
    intro hmem
    exact hsops (List.map_append ▸ List.mem_append_left _ hmem)
  rw [unwrap, removeKey_beside hbefore]
  split
  · rename_i key mapping hfind
    have hkey : key = .string "data" := (hasKey_iff "data" _).1 (List.find?_some hfind)
    have hmem := List.mem_of_find?_eq_some hfind
    rw [((lastFirst_perm after).append_left before).mem_iff, hkey] at hmem
    exact absurd hmem (hdata mapping)
  · rfl

/-! ## Pairs in parts and in another order -/

section Pairs
variable {mode : KeyMode} {above : String}

theorem pairsLeaves_cons_eq_ok {key value : Yaml.Value} {rest : List (Yaml.Value × Yaml.Value)}
    {entries : List Entry} :
    pairsLeaves mode above ((key, value) :: rest) = .ok entries ↔
      ∃ text here further, keyText key = .ok text ∧
        leaves mode (above ++ text) value = .ok here ∧
        pairsLeaves mode above rest = .ok further ∧ entries = here ++ further := by
  rw [pairsLeaves, bind_eq_ok]
  constructor
  · rintro ⟨text, htext, h⟩
    obtain ⟨here, hhere, h⟩ := bind_eq_ok.1 h
    obtain ⟨further, hfurther, h⟩ := bind_eq_ok.1 h
    exact ⟨text, here, further, htext, hhere, hfurther, (Except.ok.inj h).symm⟩
  · rintro ⟨text, here, further, htext, hhere, hfurther, rfl⟩
    exact ⟨text, htext, bind_eq_ok.2 ⟨here, hhere, bind_eq_ok.2 ⟨further, hfurther, rfl⟩⟩⟩

theorem pairsLeaves_append {xs ys : List (Yaml.Value × Yaml.Value)} {entries : List Entry}
    (h : pairsLeaves mode above (xs ++ ys) = .ok entries) :
    ∃ here further, pairsLeaves mode above xs = .ok here ∧
      pairsLeaves mode above ys = .ok further ∧ entries = here ++ further := by
  induction xs generalizing entries with
  | nil => exact ⟨[], entries, by rw [pairsLeaves], h, rfl⟩
  | cons pair rest ih =>
    obtain ⟨text, first, others, htext, hfirst, hothers, rfl⟩ := pairsLeaves_cons_eq_ok.1 h
    obtain ⟨here, further, hhere, hfurther, rfl⟩ := ih hothers
    refine ⟨first ++ here, further, ?_, hfurther, (List.append_assoc _ _ _).symm⟩
    exact pairsLeaves_cons_eq_ok.2 ⟨text, first, here, htext, hfirst, hhere, rfl⟩

/-- Pairs in another order have the same leaves in another order. -/
theorem pairsLeaves_perm {pairs pairs' : List (Yaml.Value × Yaml.Value)}
    (hperm : pairs.Perm pairs') {entries : List Entry}
    (h : pairsLeaves mode above pairs = .ok entries) :
    ∃ entries', pairsLeaves mode above pairs' = .ok entries' ∧ entries.Perm entries' := by
  induction hperm generalizing entries with
  | nil => exact ⟨entries, h, List.Perm.refl _⟩
  | cons pair _ ih =>
    obtain ⟨text, here, further, htext, hhere, hfurther, rfl⟩ := pairsLeaves_cons_eq_ok.1 h
    obtain ⟨further', hfurther', hmoved⟩ := ih hfurther
    refine ⟨here ++ further', ?_, hmoved.append_left here⟩
    exact pairsLeaves_cons_eq_ok.2 ⟨text, here, further', htext, hhere, hfurther', rfl⟩
  | swap pair pair' rest =>
    obtain ⟨text', here', further, htext', hhere', hfurther, rfl⟩ := pairsLeaves_cons_eq_ok.1 h
    obtain ⟨text, here, rest', htext, hhere, hrest, rfl⟩ := pairsLeaves_cons_eq_ok.1 hfurther
    refine ⟨here ++ (here' ++ rest'), ?_, ?_⟩
    · have hback := pairsLeaves_cons_eq_ok.2 ⟨text', here', rest', htext', hhere', hrest, rfl⟩
      exact pairsLeaves_cons_eq_ok.2 ⟨text, here, _, htext, hhere, hback, rfl⟩
    · rw [← List.append_assoc, ← List.append_assoc]
      exact List.perm_append_comm.append_right rest'
  | trans _ _ ih ih' =>
    obtain ⟨middle, hmiddle, hfirst⟩ := ih h
    obtain ⟨entries', hentries', hsecond⟩ := ih' hmiddle
    exact ⟨entries', hentries', hfirst.trans hsecond⟩

end Pairs

end YamlSecrets

/-- The secrets of a YAML document with these pairs that is read as it is written. -/
def mappingSecrets (mode : KeyMode) (service : String) (pairs : List (Yaml.Value × Yaml.Value)) :
    Except StoreError SecretSet :=
  (Content.yaml (.mapping pairs)).secrets .file mode service

section Mapping
variable {mode : KeyMode} {service : String} {pairs pairs' xs ys : List (Yaml.Value × Yaml.Value)}
  {set : SecretSet}

theorem mappingSecrets_eq_ok_iff :
    mappingSecrets mode service pairs = .ok set ↔
      ∃ entries, YamlSecrets.pairsLeaves mode "" pairs = .ok entries ∧
        Secret.collect service mode entries = .ok set := by
  unfold mappingSecrets Content.secrets
  rw [bind_eq_ok]
  refine exists_congr fun entries => and_congr_left fun _ => ?_
  exact mapError_eq_ok

theorem mappingSecrets_append (h : mappingSecrets mode service (xs ++ ys) = .ok set) :
    ∃ a b, mappingSecrets mode service xs = .ok a ∧ mappingSecrets mode service ys = .ok b ∧
      set = a.extend b := by
  obtain ⟨entries, hentries, hcollect⟩ := mappingSecrets_eq_ok_iff.1 h
  obtain ⟨here, further, hhere, hfurther, rfl⟩ := YamlSecrets.pairsLeaves_append hentries
  obtain ⟨a, b, ha, hb, hset⟩ := Secret.collect_append hcollect
  exact ⟨a, b, mappingSecrets_eq_ok_iff.2 ⟨here, hhere, ha⟩,
    mappingSecrets_eq_ok_iff.2 ⟨further, hfurther, hb⟩, hset⟩

theorem mappingSecrets_perm (hperm : pairs.Perm pairs')
    (h : mappingSecrets mode service pairs = .ok set) :
    ∃ set', mappingSecrets mode service pairs' = .ok set' := by
  obtain ⟨entries, hentries, hcollect⟩ := mappingSecrets_eq_ok_iff.1 h
  obtain ⟨entries', hentries', hmoved⟩ := YamlSecrets.pairsLeaves_perm hperm hentries
  obtain ⟨set', hset'⟩ := Secret.collect_perm hmoved hcollect
  exact ⟨set', mappingSecrets_eq_ok_iff.2 ⟨entries', hentries', hset'⟩⟩

theorem mappingSecrets_perm_of_nodup (hperm : pairs.Perm pairs') {entries : List Entry}
    (hentries : (Content.yaml (.mapping pairs)).entries .file mode = .ok entries)
    (hpaths : (entries.map Prod.fst).Nodup) (h : mappingSecrets mode service pairs = .ok set) :
    mappingSecrets mode service pairs' = .ok set := by
  obtain ⟨entries', hentries', hmoved⟩ := YamlSecrets.pairsLeaves_perm hperm hentries
  have hcollect := (Content.secrets_of_entries hentries service).symm.trans h
  exact mappingSecrets_eq_ok_iff.2
    ⟨entries', hentries', Secret.collect_perm_of_nodup hmoved hpaths hcollect⟩

end Mapping

/-- The last of these pairs gives some name another value than the pairs before it. -/
def LastDisagrees (mode : KeyMode) (service : String)
    (pairs : List (Yaml.Value × Yaml.Value)) : Prop :=
  ∃ passed last first second name v w, pairs = passed ++ [last] ∧
    mappingSecrets mode service passed = .ok first ∧
    mappingSecrets mode service [last] = .ok second ∧
    first.get? name = some v ∧ second.get? name = some w ∧ v ≠ w

/-- With its last pair in front the rest of a mapping has the same names, and the same secrets just
if that pair agrees with the ones that it passes. -/
theorem mappingSecrets_lastFirst {mode : KeyMode} {service : String}
    {before after : List (Yaml.Value × Yaml.Value)} {set set' : SecretSet}
    (h : mappingSecrets mode service (before ++ lastFirst after) = .ok set)
    (h' : mappingSecrets mode service (before ++ after) = .ok set') :
    set.names = set'.names ∧ (set = set' ↔ ¬ LastDisagrees mode service after) := by
  rcases List.eq_nil_or_concat after with rfl | ⟨passed, last, rfl⟩
  · have hsame : set = set' := Except.ok.inj (h.symm.trans h')
    refine ⟨by rw [hsame], iff_of_true hsame ?_⟩
    rintro ⟨passed, last, -, -, -, -, -, hnil, -⟩
    exact List.append_ne_nil_of_right_ne_nil passed (List.cons_ne_nil last []) hnil.symm
  · rw [List.concat_eq_append] at h h' ⊢
    rw [lastFirst_concat, ← List.singleton_append] at h
    -- the same three sets on both sides, the last two added in different orders
    obtain ⟨a, bc, ha, hbc, rfl⟩ := mappingSecrets_append h'
    obtain ⟨b, c, hb, hc, rfl⟩ := mappingSecrets_append hbc
    obtain ⟨a', cb, ha', hcb, rfl⟩ := mappingSecrets_append h
    obtain ⟨c', b', hc', hb', rfl⟩ := mappingSecrets_append hcb
    obtain rfl : a = a' := Except.ok.inj (ha.symm.trans ha')
    obtain rfl : b = b' := Except.ok.inj (hb.symm.trans hb')
    obtain rfl : c = c' := Except.ok.inj (hc.symm.trans hc')
    rw [SecretSet.extend_assoc, SecretSet.extend_assoc]
    refine ⟨a.names_extend_comm c b, eq_comm.trans ((a.extend_comm_iff b c).trans ?_)⟩
    constructor
    · rintro hagree ⟨passed', last', first, second, name, v, w, hsplit, hfirst, hsecond, hv, hw, hne⟩
      obtain ⟨rfl, hlast⟩ := List.append_inj' hsplit rfl
      obtain rfl : last = last' := List.head_eq_of_cons_eq hlast
      obtain rfl : b = first := Except.ok.inj (hb.symm.trans hfirst)
      obtain rfl : c = second := Except.ok.inj (hc.symm.trans hsecond)
      exact hne (hagree name v w hv hw)
    · intro hagree name v w hv hw
      by_contra hne
      exact hagree ⟨passed, last, b, c, name, v, w, rfl, hb, hc, hv, hw, hne⟩

/-- **Metadata changes no secrets of a JSON document, and those of a YAML document just if the last
pair, which takes its place, disagrees with a pair that it passes**, for which two leaves must share a
path. Whether a document gives secrets, and of which names, it never changes. -/
theorem metadata_moves_last_pair (mode : KeyMode) (service : String) :
    (∀ before after metadata, Content.IsBare (.json (.object (before ++ after))) →
      (Content.json (.object (before ++ ("sops", metadata) :: after))).secrets .sops mode service =
        (Content.json (.object (before ++ after))).secrets .file mode service) ∧
    ∀ before after metadata, Content.IsBare (.yaml (.mapping (before ++ after))) →
      let annotated := Content.yaml (.mapping (before ++ (.string "sops", metadata) :: after))
      let plain := Content.yaml (.mapping (before ++ after))
      ((∃ set, annotated.secrets .sops mode service = .ok set) ↔
        ∃ set, plain.secrets .file mode service = .ok set) ∧
      ∀ set set', annotated.secrets .sops mode service = .ok set →
        plain.secrets .file mode service = .ok set' →
          set.names = set'.names ∧ (set = set' ↔ ¬ LastDisagrees mode service after) ∧
          ∀ entries, plain.entries .file mode = .ok entries → (entries.map Prod.fst).Nodup →
            set = set' := by
  constructor
  · intro before after metadata hbare
    unfold Content.secrets Content.entries JsonSecrets.ofValue
    dsimp only
    rw [JsonSecrets.unwrap_beside hbare]
  · intro before after metadata hbare annotated plain
    have hannotated : annotated.secrets .sops mode service =
        mappingSecrets mode service (before ++ lastFirst after) := by
      unfold annotated mappingSecrets Content.secrets Content.entries YamlSecrets.ofValue
      dsimp only
      rw [YamlSecrets.unwrap_beside hbare]
    have hperm := (lastFirst_perm after).append_left before
    rw [hannotated]
    refine ⟨⟨?_, ?_⟩, ?_⟩
    · rintro ⟨set, h⟩
      exact mappingSecrets_perm hperm h
    · rintro ⟨set, h⟩
      exact mappingSecrets_perm hperm.symm h
    · intro set set' h h'
      obtain ⟨hnames, hsame⟩ := mappingSecrets_lastFirst h h'
      refine ⟨hnames, hsame, fun entries hentries hpaths => ?_⟩
      have hmoved := mappingSecrets_perm_of_nodup hperm.symm hentries hpaths h'
      exact Except.ok.inj (h.symm.trans hmoved)

/-- Three pairs of a YAML document, the last of them nested. -/
def threePairs : List (Yaml.Value × Yaml.Value) :=
  [(.string "token", .string "one"), (.number (.int 8080), .string "two"),
    (.string "db", .mapping [(.string "sops", .string "three")])]

theorem metadata_moves_last_pair_three_pairs :
    (Content.json (.object [("sops", .null), ("token", .string "one")])).secrets .sops .paths
        "app" = .ok (.ofPairs [("TOKEN", "one")]) ∧
    ∃ set, (Content.yaml (.mapping ((.string "sops", .null) :: threePairs))).secrets
        .sops .paths "app" = .ok set ∧
      (Content.yaml (.mapping threePairs)).secrets .file .paths "app" = .ok set ∧
      set.entries = [("8080", "two"), ("DB_SOPS", "three"), ("TOKEN", "one")] := by
  obtain ⟨hjson, hyaml⟩ := metadata_moves_last_pair .paths "app"
  constructor
  · have hbare : Content.IsBare (.json (.object ([] ++ [("token", .string "one")]))) := by
      simp [Content.IsBare]
    exact (hjson [] [("token", .string "one")] .null hbare).trans rfl
  · have hbare : Content.IsBare (.yaml (.mapping ([] ++ threePairs))) := by
      simp [Content.IsBare, threePairs]
    obtain ⟨hok, hsame⟩ := hyaml [] threePairs .null hbare
    obtain ⟨set, hset⟩ := hok.2 ⟨_, rfl⟩
    obtain ⟨-, -, hpaths⟩ := hsame set _ hset rfl
    obtain rfl := hpaths _ rfl (by decide)
    exact ⟨_, hset, rfl, rfl⟩

/-- A number and a string with one text as keys. -/
def numberedPairs : List (Yaml.Value × Yaml.Value) :=
  [(.number (.int 8080), .string "one"), (.string "8080", .string "two")]

/-- A key with a slash and nested keys with one path. -/
def slashedPairs : List (Yaml.Value × Yaml.Value) :=
  [(.string "db/password", .string "one"),
    (.string "db", .mapping [(.string "password", .string "two")])]

/-- Of two pairs with one path the later one counts, and with metadata in front of them the earlier
one, whether keys are names or form paths. -/
theorem metadata_changes_secret :
    Content.IsBare (.yaml (.mapping numberedPairs)) ∧
    Content.IsBare (.yaml (.mapping slashedPairs)) ∧
    (∃ set set',
      (Content.yaml (.mapping ((.string "sops", .null) :: numberedPairs))).secrets
        .sops .verbatim "app" = .ok set ∧
      (Content.yaml (.mapping numberedPairs)).secrets .file .verbatim "app" = .ok set' ∧
      set.entries = [("8080", "one")] ∧ set'.entries = [("8080", "two")]) ∧
    ∃ set set',
      (Content.yaml (.mapping ((.string "sops", .null) :: slashedPairs))).secrets
        .sops .paths "app" = .ok set ∧
      (Content.yaml (.mapping slashedPairs)).secrets .file .paths "app" = .ok set' ∧
      set.entries = [("DB_PASSWORD", "one")] ∧ set'.entries = [("DB_PASSWORD", "two")] := by
  refine ⟨?_, ?_, ?_, ?_⟩
  · simp [Content.IsBare, numberedPairs]
  · simp [Content.IsBare, slashedPairs]
  · exact ⟨_, _, rfl, rfl, rfl, rfl⟩
  · exact ⟨_, _, rfl, rfl, rfl, rfl⟩

end EnvInject.Document
