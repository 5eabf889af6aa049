import EnvInject.Proofs.Document.Content
import EnvInject.Proofs.Injection.Overlay
import EnvInject.Proofs.Injection.Steps
import EnvInject.Proofs.Injection.Strict
import EnvInject.Proofs.Secret.Parts

/-!
# The rendered environment

A child gets its environment as `NAME=value` texts and finds the names again by cutting each text at
its first `=`. This gives back the environment if no name is empty or has a `=` in it. Names are
those of the real environment and those that come of the keys of secrets.

* `Environment.cut?` : what a child makes of a text (`map_cut?_rendered`);
* `mem_names_inject` : where the names of an injection come from;
* `Backing`, `Backing.Reads` : memory or files behind a source, and the entries that are read there;
* `inject_renders_faithfully` : a child finds the environment that was injected;
* `inject_renders_other_name` : a verbatim key with a `=` in it reaches the child under another
  name.
-/

namespace EnvInject

/-! ## Rendering and cutting -/

/-- A name that can be told from its value: it is not empty and has no `=` in it. -/
def IsVariableName (name : String) : Prop := name ≠ "" ∧ '=' ∉ name.toList

instance : DecidablePred IsVariableName := fun _ => inferInstanceAs (Decidable (_ ∧ _))

/-- The name and the value that a child makes of a text. -/
def Environment.cut? (text : String) : Option (String × String) :=
  (Text.cutFirst? '=' text.toList).map fun p => (String.ofList p.1, String.ofList p.2)

theorem Environment.cut?_append {name : String} (h : '=' ∉ name.toList) (value : String) :
    cut? (name ++ "=" ++ value) = some (name, value) := by
  have hlist : (name ++ "=" ++ value).toList = name.toList ++ '=' :: value.toList := by
    rw [String.toList_append, String.toList_append, List.append_assoc]
    rfl
  rw [cut?, Text.cutFirst?_eq_some_iff.2 ⟨h, hlist⟩, Option.map_some, String.ofList_toList,
    String.ofList_toList]

/-- Cutting gives back what was rendered. -/
theorem Environment.map_cut?_rendered {env : Environment}
    (h : ∀ name ∈ env.names, '=' ∉ name.toList) : env.rendered.map cut? = env.pairs.map some := by
  rw [rendered, List.map_map]
  refine List.map_congr_left fun p hp => ?_
  exact cut?_append (h p.1 (List.mem_map_of_mem hp)) p.2

/-! ## Where names come from -/

section Names
variable {real : Environment} {policy : Policy} {sets : List (String × SecretSet)} {name : String}

theorem mem_names_base (h : name ∈ (policy.base real).names) : name ∈ real.names := by
  unfold Policy.base at h
  split at h
  · cases h
  · exact h

theorem mem_names_overlay {keep : Bool}
    (h : name ∈ (overlay keep (policy.base real) sets).env.names) :
    name ∈ real.names ∨ ∃ f ∈ sets, name ∈ f.2.names := by
  rcases (mem_names_overlay_iff keep _ _ _).1 h with hbase | hset
  · exact .inl (mem_names_base hbase)
  · exact .inr hset

/-- Secrets may add names: only filling the placeholders of the real environment never does. -/
def Policy.AddsNames (policy : Policy) : Prop := policy.strict = true → policy.pristine = true

/-- A name of the result is one of the real environment, or it was added by a set. -/
theorem mem_names_settle {injection : Injection} (h : settle real policy sets = .ok injection)
    (hname : name ∈ injection.env.names) :
    name ∈ real.names ∨ policy.AddsNames ∧ ∃ f ∈ sets, name ∈ f.2.names := by
  cases hstrict : policy.strict with
  | false =>
    have hadds : policy.AddsNames := fun htrue => by
      rw [hstrict] at htrue
      cases htrue
    rw [settle_lax real sets hstrict] at h
    cases h
    rcases mem_names_overlay hname with hreal | hset
    · exact .inl hreal
    · exact .inr ⟨hadds, hset⟩
  | true =>
    rw [settle_strict real sets hstrict, strictFill] at h
    split at h
    · cases h
    · cases h
      dsimp only at hname
      split at hname
      · rename_i hpristine
        rw [names_ofPairs_entries] at hname
        exact .inr ⟨fun _ => hpristine, mem_names_union_iff.1 hname⟩
      · rw [names_fillPlaceholders] at hname
        exact .inl hname

theorem mem_names_inject {services : List String} {source : Source} {injection : Injection}
    (h : (inject real services source policy).result = .ok injection)
    (hname : name ∈ injection.env.names) :
    name ∈ real.names ∨ policy.AddsNames ∧
      ∃ service ∈ services, ∃ set, source service policy.keyMode = .ok set ∧ name ∈ set.names := by
  obtain ⟨sets, hsets, h⟩ := inject_eq_ok_iff.1 h
  rcases mem_names_settle h hname with hreal | ⟨hadds, f, hf, hset⟩
  · exact .inl hreal
  · obtain ⟨hservice, hsource⟩ := fetchAll_eq_ok hsets f hf
    exact .inr ⟨hadds, f.1, hservice, f.2, hsource, hset⟩

end Names

/-! ## Sources that read entries -/

/-- What is behind a source: entries in memory, or the files of a host. -/
inductive Backing where
  | memory (register : Register)
  | files (store : Store) (host : Host)

namespace Backing

def source : Backing → Source
  | memory register => register.source
  | files store host => store.source host

/-- The entries that are read for a service, and the format of the document that they come from. -/
inductive Reads :
    Backing → KeyMode → String → Option Document.Format → List Secret.Entry → Prop where
  | memory {register : Register} {mode : KeyMode} {service : String} {entries : List Secret.Entry}
    (h : register.lookup service = some entries) :
    Reads (.memory register) mode service none entries
  | files {store : Store} {host : Host} {mode : KeyMode} {service path : String} {bytes : Bytes}
    {entries : List Secret.Entry} (hpath : store.locate host.tree service = .ok path)
    (hbytes : store.reader host service path = .ok bytes)
    (hentries : Document.entries store.engine mode (.ofPath path) bytes = .ok entries) :
    Reads (.files store host) mode service (some (.ofPath path)) entries

theorem reads_of_source {backing : Backing} {mode : KeyMode} {service : String} {set : SecretSet}
    (h : backing.source service mode = .ok set) :
    ∃ format entries, backing.Reads mode service format entries ∧
      Secret.collect service mode entries = .ok set := by
  cases backing with
  | memory register =>
    have hsource : register.source service mode = .ok set := h
    unfold Register.source at hsource
    cases hentries : register.lookup service with
    | none =>
      rw [hentries] at hsource
      cases hsource
    | some entries =>
      rw [hentries] at hsource
      exact ⟨_, entries, .memory hentries, hsource⟩
  | files store host =>
    obtain ⟨path, bytes, entries, hpath, hbytes, hentries, hcollect⟩ := Store.source_eq_ok h
    exact ⟨_, entries, .files hpath hbytes hentries, hcollect⟩

theorem Reads.notMem_env {backing : Backing} {mode : KeyMode} {service : String}
    {format : Option Document.Format} {entries : List Secret.Entry}
    (h : backing.Reads mode service format entries) (henv : format = some .env) :
    ∀ entry ∈ entries, '=' ∉ entry.1.toList := by
  cases h with
  | memory => cases henv
  | files hpath hbytes hentries =>
    intro entry hentry
    rw [Option.some.inj henv] at hentries
    unfold Document.entries at hentries
    split at hentries
    · cases hentries
    · cases hentries
      exact Dotenv.notMem_key hentry

end Backing

/-- Keys that make good names: no `=` in them, which ENV documents rule out by themselves, and under
verbatim keys none is empty. -/
def Backing.NamesSecrets (backing : Backing) (mode : KeyMode) (service : String) : Prop :=
  ∀ format entries, backing.Reads mode service format entries → ∀ entry ∈ entries,
    (format ≠ some .env → '=' ∉ entry.1.toList) ∧ (mode = .verbatim → entry.1 ≠ "")

theorem Backing.namesSecrets_memory {register : Register} {service : String}
    {entries : List Secret.Entry} (h : register.lookup service = some entries)
    (hnames : ∀ entry ∈ entries, IsVariableName entry.1) (mode : KeyMode) :
    (memory register).NamesSecrets mode service := by
  intro format entries' hreads entry hentry
  cases hreads with
  | memory h' =>
    rw [h] at h'
    cases h'
    exact ⟨fun _ => (hnames entry hentry).2, fun _ => (hnames entry hentry).1⟩

theorem Backing.isVariableName_of_source {backing : Backing} {mode : KeyMode} {service : String}
    (hkeys : backing.NamesSecrets mode service) {set : SecretSet}
    (h : backing.source service mode = .ok set) : ∀ name ∈ set.names, IsVariableName name := by
  intro name hname
  obtain ⟨format, entries, hreads, hcollect⟩ := reads_of_source h
  obtain ⟨entry, hentry, hkey⟩ := Secret.mem_names_of_collect hcollect hname
  have hequals : '=' ∉ entry.1.toList := by
    by_cases henv : format = some .env
    · exact hreads.notMem_env henv entry hentry
    · exact (hkeys format entries hreads entry hentry).1 henv
  rcases hkey with ⟨hmode, rfl⟩ | ⟨hmode, rfl, hname⟩
  · exact ⟨(hkeys format entries hreads entry hentry).2 hmode, hequals⟩
  · exact ⟨hname, Secret.notMem_variableName hequals⟩

/-- **A child finds the environment that was injected.** -/
theorem inject_renders_faithfully {real : Environment}
    (hreal : ∀ name ∈ real.names, IsVariableName name) (backing : Backing)
    {services : List String} {policy : Policy}
    (hkeys : policy.AddsNames → ∀ service ∈ services,
      backing.NamesSecrets policy.keyMode service)
    {injection : Injection}
    (h : (inject real services backing.source policy).result = .ok injection) :
    (∀ name ∈ injection.env.names, IsVariableName name) ∧
    injection.env.rendered.map Environment.cut? = injection.env.pairs.map some ∧
    injection.env.names.Nodup := by
  have hnames : ∀ name ∈ injection.env.names, IsVariableName name := by
    intro name hname
    rcases mem_names_inject h hname with hmem | ⟨hadds, service, hservice, set, hset, hmem⟩
    · exact hreal name hmem
    · exact Backing.isVariableName_of_source (hkeys hadds service hservice) hset name hmem
  refine ⟨hnames, ?_, injection.env.nodup⟩
  exact Environment.map_cut?_rendered fun name hname => (hnames name hname).2

theorem inject_renders_faithfully_two_services :
    ∃ injection, (inject (.ofPairs [("HOME", "/tmp"), ("OPTS", "a=b")]) ["base", "override"]
        (Backing.memory sampleRegister).source { verbatimKeys := true }).result = .ok injection ∧
      injection.env.rendered = ["HOME=/tmp", "OPTS=a=b", "TOKEN=two", "ZONE=eu", "API_KEY=k"] ∧
      injection.env.rendered.map Environment.cut? = injection.env.pairs.map some := by
  have hkeys : ∀ service ∈ ["base", "override"],
      (Backing.memory sampleRegister).NamesSecrets .verbatim service := by
    simp only [List.forall_mem_cons]
    exact ⟨Backing.namesSecrets_memory rfl (by decide) _,
      Backing.namesSecrets_memory rfl (by decide) _, nofun⟩
  have hresult : (inject (.ofPairs [("HOME", "/tmp"), ("OPTS", "a=b")]) ["base", "override"]
      (Backing.memory sampleRegister).source { verbatimKeys := true }).result =
        .ok (overlay false (.ofPairs [("HOME", "/tmp"), ("OPTS", "a=b")])
          (fetched sampleSecrets ["base", "override"])) := by
    rfl
  obtain ⟨-, hcut, -⟩ := inject_renders_faithfully (by decide) _ (fun _ => hkeys) hresult
  exact ⟨_, hresult, by cbv, hcut⟩

/-- A key with a `=` in it reaches the child under another name, and shadows the variable of that name,
as it is or as a path; under verbatim keys an empty key is no name at all. -/
theorem inject_renders_other_name :
    (∃ injection, (inject (.ofPairs [("PATH", "/bin")]) ["app"]
        (Backing.memory [("app", [("PATH=/evil:", "x")])]).source { verbatimKeys := true }).result =
          .ok injection ∧
      injection.env.pairs = [("PATH", "/bin"), ("PATH=/evil:", "x")] ∧
      injection.env.rendered.map Environment.cut? =
        [some ("PATH", "/bin"), some ("PATH", "/evil:=x")]) ∧
    (∃ injection, (inject (.ofPairs [("PATH", "/bin")]) ["app"]
        (Backing.memory [("app", [("PATH=/evil:", "x")])]).source {}).result = .ok injection ∧
      injection.env.pairs = [("PATH", "/bin"), ("PATH=_EVIL:", "x")] ∧
      injection.env.rendered.map Environment.cut? =
        [some ("PATH", "/bin"), some ("PATH", "_EVIL:=x")]) ∧
    ∃ injection, (inject (.ofPairs [("PATH", "/bin")]) ["app"]
        (Backing.memory [("app", [("", "x")])]).source { verbatimKeys := true }).result =
          .ok injection ∧
      injection.env.names = ["PATH", ""] := by
  refine ⟨⟨_, rfl, ?_, ?_⟩, ⟨_, rfl, ?_, ?_⟩, ⟨_, rfl, ?_⟩⟩
  · cbv
  · cbv
  · cbv
  · cbv
  · cbv

end EnvInject
