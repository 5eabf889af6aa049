import EnvInject.Proofs.File.Extension
import EnvInject.Proofs.Store.Candidates
import Mathlib

/-!
# Which document is found, and how it is read

The document of an accepted service is the first file among four paths, which differ in what follows
the service's whole name. The extension that the format is chosen by is read back from such a path as
it was put there, whatever dots the name has in it, and where no document is found the name stands
whole in what the user is told.

* `document` : a service's path below a root, without an extension;
* `candidate_eq_document`, `lookedFor_eq` : the paths that are tried, and the one that is told;
* `extension?_document` : the extension read back;
* `locate_eq_ok_iff`, `locate_eq_error_iff` : what is found, and when nothing is;
* `readings` : the reader of each extension (`textEntries_ofPath`);
* `locate_first_document` : all of it, up to the entries that a document is read as.
-/

namespace EnvInject

/-- The path leads to a file, and not to a directory. -/
def FileTree.LeadsToFile (tree : FileTree) (path : String) : Prop :=
  ∃ place content permissions, tree.lookup path = .ok (place, .file content permissions)

theorem FileTree.leadsToFile_iff {tree : FileTree} {path : String} :
    tree.LeadsToFile path ↔ tree.isFile path = true :=
  isFile_iff.symm

namespace Store

open Document
open Secret (Entry)

/-- The path of a service below a root, without an extension. -/
def document (root service : String) : String :=
  if root = "" ∨ root.toList.getLast? = some '/' then root ++ service else root ++ "/" ++ service

variable {store : Store} {tree : FileTree} {service extension : String}

/-! ## The paths of an accepted service -/

theorem join_eq_document (root : String) (h : Path.isAbsolute service = false) :
    Path.join root service = document root service := by
  unfold Path.join document
  rw [if_neg (by simp [h])]
  simp

section Accepted
variable (h : Service.check service = .ok ())
include h

theorem isAbsolute_of_check : Path.isAbsolute service = false := by
  have hnames := Service.isName_of_check h
  obtain ⟨segment, rest, hsegments⟩ :=
    List.exists_cons_of_ne_nil (Text.split_ne_nil '/' service)
  have hsegment : Path.IsName segment := hnames segment (by simp [Service.segments, hsegments])
  rw [← Text.intercalate_split '/' service, hsegments]
  exact Path.isAbsolute_intercalate hsegment

/-- A service's path is the path of its directory joined with its last segment. -/
theorem exists_document_eq (root : String) :
    ∃ front last, Service.segments service = front ++ [last] ∧ Path.IsName last ∧
      Path.join (front.foldl Path.join root) last = document root service := by
  obtain ⟨front, last, hsegments⟩ := exists_segments service
  have hnames := Service.isName_of_check h
  have hservice : "/".intercalate (Service.segments service) = service :=
    Text.intercalate_split '/' service
  refine ⟨front, last, hsegments, hnames last (by simp [hsegments]), ?_⟩
  calc Path.join (front.foldl Path.join root) last
      = (Service.segments service).foldl Path.join root := by rw [hsegments, List.foldl_concat]
    _ = Path.join root service := by
      rw [Path.foldl_join hnames (by simp [hsegments]), hservice]
    _ = document root service := join_eq_document root (isAbsolute_of_check h)

theorem candidate_eq_document (store : Store) (extension : String) :
    store.candidate service extension = document store.root service ++ "." ++ extension := by
  obtain ⟨front, last, hsegments, hlast, hdocument⟩ := exists_document_eq h store.root
  rw [candidate_eq, below_eq hsegments, List.foldl_concat, String.append_assoc,
    Path.join_append _ _ hlast.ne_empty, hdocument, String.append_assoc]

theorem fileName?_document (hextension : extension ∈ extensions) (root : String) :
    ∃ front last, Path.IsName last ∧
      (∀ other, document root service ++ "." ++ other = front ++ (last ++ "." ++ other)) ∧
      Path.fileName? (document root service ++ "." ++ extension) =
        some (last ++ "." ++ extension) := by
  obtain ⟨segments, last, hsegments, hlast, hdocument⟩ := exists_document_eq h root
  obtain ⟨front, hfront⟩ := Path.exists_join_eq_append (segments.foldl Path.join root) hlast.isAbsolute
  refine ⟨front, last, hlast, fun other => ?_, ?_⟩
  · rw [← hdocument, hfront, String.append_assoc, String.append_assoc, String.append_assoc]
  -- as a path joined with names, it has these names for its last components
  · have hpath : document root service ++ "." ++ extension =
        (below service extension).foldl Path.join root := by
      rw [← candidate_eq_document h { root, engine := .file }, candidate_eq]
    rw [hpath, Path.fileName?, Path.components_foldl_join (isName_below h hextension),
      below_eq hsegments, List.map_append, ← List.append_assoc, List.map_singleton,
      List.getLast?_concat]

theorem extension?_document (hextension : extension ∈ extensions) (root : String) :
    Path.extension? (document root service ++ "." ++ extension) = some extension := by
  obtain ⟨front, last, hlast, -, hname⟩ := fileName?_document h hextension root
  exact Path.extension?_eq hname hlast.ne_empty (notMem_dot _ hextension)

theorem lookedFor_eq (store : Store) :
    store.lookedFor service = document store.root service ++ "." ++ "\x7byaml,yml,json,env\x7d" := by
  have hextension : "yaml" ∈ extensions := List.mem_cons_self
  obtain ⟨front, last, hlast, hpath, hname⟩ := fileName?_document h hextension store.root
  rw [hpath] at hname
  rw [lookedFor, candidate_eq_document h, hpath, hpath]
  exact Path.withExtension_eq hname hlast.ne_empty hlast.ne_here (notMem_dot _ hextension) _

/-! ## What is found -/

theorem find?_candidates (store : Store) (tree : FileTree) :
    (store.candidates service).find? tree.isFile =
      (extensions.find? fun extension =>
        tree.isFile (document store.root service ++ "." ++ extension)).map
          (document store.root service ++ "." ++ ·) := by
  have hcandidates : store.candidates service =
      extensions.map (document store.root service ++ "." ++ ·) :=
    List.map_congr_left fun extension _ => candidate_eq_document h store extension
  rw [hcandidates, List.find?_map]
  rfl

theorem locate_eq_ok_iff {path : String} :
    store.locate tree service = .ok path ↔
      ∃ before extension after, extensions = before ++ extension :: after ∧
        path = document store.root service ++ "." ++ extension ∧
        tree.LeadsToFile (document store.root service ++ "." ++ extension) ∧
        ∀ earlier ∈ before, ¬ tree.LeadsToFile (document store.root service ++ "." ++ earlier) := by
  simp only [locate_eq_ok_iff_find?, find?_candidates h, Option.map_eq_some_iff,
    List.find?_eq_some_iff_append, FileTree.leadsToFile_iff, Bool.not_eq_true', Bool.not_eq_true]
  constructor
  · rintro ⟨extension, ⟨hfile, before, after, hsplit, hbefore⟩, rfl⟩
    exact ⟨before, extension, after, hsplit, rfl, hfile, hbefore⟩
  · rintro ⟨before, extension, after, hsplit, rfl, hfile, hbefore⟩
    exact ⟨extension, ⟨hfile, before, after, hsplit, hbefore⟩, rfl⟩

theorem locate_eq_error_iff {e : StoreError} :
    store.locate tree service = .error e ↔
      (∀ extension ∈ extensions, ¬ tree.LeadsToFile (document store.root service ++ "." ++ extension)) ∧
        e = .notFound service (document store.root service ++ "." ++ "\x7byaml,yml,json,env\x7d") := by
  have hlocate : store.locate tree service = .error e ↔
      (store.candidates service).find? tree.isFile = none ∧
        e = .notFound service (store.lookedFor service) := by
    unfold locate
    cases (store.candidates service).find? tree.isFile <;> simp [eq_comm]
  simp only [hlocate, find?_candidates h, lookedFor_eq h, Option.map_eq_none_iff,
    List.find?_eq_none, FileTree.leadsToFile_iff]

end Accepted

/-! ## How it is read -/

/-- How a text is read as a document with each extension. -/
def readings (engine : Engine) (mode : KeyMode) :
    List (String × (String → Except Fault (List Entry))) :=
  [("yaml", YamlSecrets.entries engine mode), ("yml", YamlSecrets.entries engine mode),
    ("json", JsonSecrets.entries engine mode), ("env", fun content => .ok (Dotenv.entries content))]

theorem textEntries_ofPath {engine : Engine} {mode : KeyMode} {path : String}
    {reading : String → Except Fault (List Entry)} (hextension : Path.extension? path = some extension)
    (h : (extension, reading) ∈ readings engine mode) (content : String) :
    textEntries engine mode content (.ofPath path) = reading content := by
  rw [Format.ofPath, hextension]
  simp only [readings, List.mem_cons, Prod.mk.injEq, List.not_mem_nil, or_false] at h
  rcases h with ⟨rfl, rfl⟩ | ⟨rfl, rfl⟩ | ⟨rfl, rfl⟩ | ⟨rfl, rfl⟩ <;> rfl

/-- What a fetch makes of the text of the document that was found. -/
theorem fetchWith_of_located {path content : String} {read : DocumentReader} {bytes : Bytes}
    (mode : KeyMode) (hlocate : store.locate tree service = .ok path)
    (hread : read service path = .ok bytes) (hdecode : Utf8.decode? bytes = some content) :
    store.fetchWith tree read service mode =
      ((textEntries store.engine mode content (.ofPath path)).mapError
        fun fault => .malformed service fault.message) >>= Secret.collect service mode := by
  have hentries : Document.entries store.engine mode (.ofPath path) bytes =
      textEntries store.engine mode content (.ofPath path) := by
    rw [Document.entries, hdecode]
  unfold fetchWith
  rw [hlocate]
  change (read service path >>= _) = _
  rw [hread, ← hentries]
  rfl

/-- **The first of the four documents that is a file is found, and read by its own extension.** -/
theorem locate_first_document (store : Store) {service : String}
    (h : Service.check service = .ok ()) (tree : FileTree) :
    let path (extension : String) := document store.root service ++ "." ++ extension
    (∀ found, store.locate tree service = .ok found ↔
      ∃ before extension after, ["yaml", "yml", "json", "env"] = before ++ extension :: after ∧
        found = path extension ∧ tree.LeadsToFile (path extension) ∧
        ∀ earlier ∈ before, ¬ tree.LeadsToFile (path earlier)) ∧
    (∀ mode extension reading, (extension, reading) ∈ readings store.engine mode →
      Path.extension? (path extension) = some extension ∧
      ∀ read bytes content, store.locate tree service = .ok (path extension) →
        read service (path extension) = .ok bytes → Utf8.decode? bytes = some content →
        store.fetchWith tree read service mode =
          ((reading content).mapError fun fault => .malformed service fault.message) >>=
            Secret.collect service mode) ∧
    ∀ e, store.locate tree service = .error e ↔
      (∀ extension ∈ ["yaml", "yml", "json", "env"], ¬ tree.LeadsToFile (path extension)) ∧
        e = .notFound service (path "\x7byaml,yml,json,env\x7d") := by
  intro path
  refine ⟨fun found => locate_eq_ok_iff h, fun mode extension reading hreading => ?_,
    fun e => locate_eq_error_iff h⟩
  have hextension : extension ∈ extensions := List.mem_map_of_mem hreading (f := Prod.fst)
  have hback : Path.extension? (path extension) = some extension :=
    extension?_document h hextension store.root
  refine ⟨hback, fun read bytes content hlocate hbytes hdecode => ?_⟩
  rw [fetchWith_of_located mode hlocate hbytes hdecode, textEntries_ofPath hback hreading]

/-- Services that look like documents, one of them beside a directory where its first document would
be, and one that is made of dots. -/
theorem locate_first_document_dots :
    let store : Store := { root := "s/", engine := .file }
    let tree := ((({} : FileTree).makeDirectory "s/team/a.env.yaml").write "s/team/a.env.env"
      (Utf8.encode "TOKEN=one\n")).write "s/b.yaml.json" (Utf8.encode "\x7b\"TOKEN\":12\x7d")
      |>.write "s/c.json.yml" (Utf8.encode "TOKEN: 0x10\n")
    let fetch (service : String) := store.fetchWith tree (plainReader tree) service .paths
    Service.check "team/a.env" = .ok () ∧ Service.check "..." = .ok () ∧
      tree.isDirectory "s/team/a.env.yaml" = true ∧
      store.locate tree "team/a.env" = .ok "s/team/a.env.env" ∧
      Path.extension? "s/team/a.env.env" = some "env" ∧
      fetch "team/a.env" = Secret.collect "team/a.env" .paths [("TOKEN", "one")] ∧
      fetch "b.yaml" = Secret.collect "b.yaml" .paths [("TOKEN", "12")] ∧
      fetch "c.json" = Secret.collect "c.json" .paths [("TOKEN", "16")] ∧
      store.locate tree "..." = .error (.notFound "..." "s/....\x7byaml,yml,json,env\x7d") := by
  intro store tree fetch
  have hcheck : ∀ service ∈ ["team/a.env", "b.yaml", "c.json", "..."],
      Service.check service = .ok () := by
    simp only [Service.check_eq_ok_iff]
    decide +kernel
  have hfound : store.locate tree "team/a.env" = .ok "s/team/a.env.env" := by
    refine ((locate_first_document store (hcheck _ (by decide)) tree).1 _).2
      ⟨["yaml", "yml", "json"], "env", [], rfl, by decide +kernel, ?_, ?_⟩
    · exact FileTree.leadsToFile_iff.2 (by decide +kernel)
    · simp only [FileTree.leadsToFile_iff]
      decide +kernel
  have hpath : document "s/" "team/a.env" ++ "." ++ "env" = "s/team/a.env.env" := by decide +kernel
  have henv := (locate_first_document store (hcheck "team/a.env" (by decide)) tree).2.1 .paths "env"
    (fun content => .ok (Dotenv.entries content)) (by simp [readings])
  dsimp only [store] at henv
  rw [hpath] at henv
  have hjson := (locate_first_document store (hcheck "b.yaml" (by decide)) tree).2.1 .paths "json"
    (JsonSecrets.entries .file .paths) (by simp [readings, store])
  have hyaml := (locate_first_document store (hcheck "c.json" (by decide)) tree).2.1 .paths "yml"
    (YamlSecrets.entries .file .paths) (by simp [readings, store])
  have hnumber : JsonSecrets.entries .file .paths "\x7b\"TOKEN\":12\x7d" =
      .ok [("TOKEN", "12")] := by
    cbv
  have hhex : YamlSecrets.entries .file .paths "TOKEN: 0x10\n" = .ok [("TOKEN", "16")] := by
    decide +kernel
  refine ⟨hcheck _ (by decide), hcheck _ (by decide), by decide +kernel, hfound, ?_, ?_, ?_, ?_, ?_⟩
  · exact henv.1
  · exact henv.2 (plainReader tree) (Utf8.encode "TOKEN=one\n") "TOKEN=one\n" hfound
      (by decide +kernel) (by decide +kernel)
  · refine (hjson.2 (plainReader tree) (Utf8.encode "\x7b\"TOKEN\":12\x7d")
      "\x7b\"TOKEN\":12\x7d" (by decide +kernel) (by decide +kernel) (by decide +kernel)).trans ?_
    rw [hnumber]
    rfl
  · refine (hyaml.2 (plainReader tree) (Utf8.encode "TOKEN: 0x10\n") "TOKEN: 0x10\n"
      (by decide +kernel) (by decide +kernel) (by decide +kernel)).trans ?_
    rw [hhex]
    rfl
  · refine ((locate_first_document store (hcheck _ (by decide)) tree).2.2 _).2 ⟨?_, by decide +kernel⟩
    simp only [FileTree.leadsToFile_iff]
    decide +kernel

end Store

end EnvInject
