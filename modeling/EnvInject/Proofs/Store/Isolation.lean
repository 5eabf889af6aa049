import EnvInject.Decryption
import EnvInject.Proofs.File.Settled
import EnvInject.Proofs.Store.Candidates
import Mathlib.Data.List.Basic
import Mathlib.Data.List.Find

/-!
# Services do not meet in a store

The names below the root tell the service, so no two services share a place, and an edit of one
service's documents leaves the files of every other. What a service gets is a function of its own files
alone, as long as the root of the store does not lead through something that the edits may make.

* `placeOf_candidate`, `placeOf_ne`, `components_ne` : candidates of two services lie apart;
* `source_congr` : what a store of plain files looks at;
* `source_isolated` : edits of another service's documents change nothing;
* `source_changes_below_missing` : a root that goes up from a directory that a service makes.
-/

namespace EnvInject.Store

open FileTree (Edit)

variable {store : Store} {service other : String}

/-! ## Apart -/

theorem placeOf_candidate {extension : String} (h : Service.check service = .ok ())
    (hextension : extension ∈ extensions) (tree : FileTree) :
    tree.placeOf ((below service extension).foldl Path.join store.root) =
      FileTree.follow (tree.origin store.root) (Text.split '/' store.root) ++
        below service extension := by
  have hnames := isName_below h hextension
  rw [FileTree.placeOf_eq, FileTree.origin_foldl_join hnames,
    FileTree.follow_split_foldl_join hnames]

section Apart
variable (hservice : Service.check service = .ok ()) (hother : Service.check other = .ok ())
  (hne : service ≠ other) {path path' : String}
include hservice hother hne

theorem placeOf_ne (hpath : path ∈ store.candidates service)
    (hpath' : path' ∈ store.candidates other) (tree : FileTree) :
    tree.placeOf path ≠ tree.placeOf path' := by
  obtain ⟨extension, hextension, rfl⟩ := mem_candidates_iff.1 hpath
  obtain ⟨extension', hextension', rfl⟩ := mem_candidates_iff.1 hpath'
  rw [placeOf_candidate hservice hextension, placeOf_candidate hother hextension']
  intro hplace
  exact hne (below_injective hextension hextension' (List.append_cancel_left hplace)).1

theorem components_ne (hpath : path ∈ store.candidates service)
    (hpath' : path' ∈ store.candidates other) : Path.components path ≠ Path.components path' := by
  obtain ⟨extension, hextension, rfl⟩ := mem_candidates_iff.1 hpath
  obtain ⟨extension', hextension', rfl⟩ := mem_candidates_iff.1 hpath'
  rw [Path.components_foldl_join (isName_below hservice hextension),
    Path.components_foldl_join (isName_below hother hextension')]
  intro hcomponents
  have hbelow : below service extension = below other extension' :=
    (List.map_injective_iff.2 fun _ _ h => Path.Component.name.inj h)
      (List.append_cancel_left hcomponents)
  exact hne (below_injective hextension hextension' hbelow).1

end Apart

/-! ## What a store of plain files looks at -/

/-- A service's secrets depend on which of its candidates are files, and on what the first holds. -/
theorem source_congr (hengine : store.engine = .file) {host host' : Host}
    (hfiles : ∀ path ∈ store.candidates service, host'.tree.isFile path = host.tree.isFile path)
    (hread : ∀ path, (store.candidates service).find? host.tree.isFile = some path →
      host'.tree.read path = host.tree.read path) (mode : KeyMode) :
    store.source host' service mode = store.source host service mode := by
  have hfind : (store.candidates service).find? host'.tree.isFile =
      (store.candidates service).find? host.tree.isFile := List.find?_congr hfiles
  have hlocate : store.locate host'.tree service = store.locate host.tree service := by
    unfold locate
    rw [hfind]
  unfold source fetchWith
  rw [hlocate]
  cases hpath : store.locate host.tree service with
  | error e => rfl
  | ok path =>
    have hbytes : store.reader host' service path = store.reader host service path := by
      unfold reader
      rw [hengine]
      show plainReader host'.tree service path = plainReader host.tree service path
      unfold plainReader
      rw [hread path (locate_eq_ok_iff_find?.1 hpath)]
    show (store.reader host' service path >>= _) = (store.reader host service path >>= _)
    rw [hbytes]

/-! ## Isolation -/

/-- After edits of the documents of another service, a service finds its files as before. -/
theorem lookup_edits (hservice : Service.check service = .ok ())
    (hother : Service.check other = .ok ()) (hne : service ≠ other) {tree : FileTree}
    (hroot : tree.Anchored store.root) {edits : List Edit}
    (hedits : ∀ e ∈ edits, e.path ∈ store.candidates other) {path : String}
    (hpath : path ∈ store.candidates service) {place : Place} {content : Bytes}
    {permissions : Permissions} :
    (edits.foldl FileTree.edit tree).lookup path = .ok (place, .file content permissions) ↔
      tree.lookup path = .ok (place, .file content permissions) := by
  let touched (place : Place) : Prop := ∃ path ∈ store.candidates other, tree.placeOf path = place
  have hspares : tree.Spares touched (edits.foldl FileTree.edit tree) :=
    FileTree.spares_edits fun e he => ⟨e.path, hedits e he, rfl⟩
  have hplace : ¬ touched (tree.placeOf path) := fun ⟨path', hpath', hsame⟩ =>
    placeOf_ne hservice hother hne hpath hpath' tree hsame.symm
  obtain ⟨extension, hextension, rfl⟩ := mem_candidates_iff.1 hpath
  exact hspares.lookup_file_iff hroot (isName_below hservice hextension)
    (below_ne_nil service extension) hplace

theorem edits_of_barred (hother : Service.check other = .ok ()) {tree : FileTree}
    (hroot : tree.Barred store.root) {edits : List Edit}
    (hedits : ∀ e ∈ edits, e.path ∈ store.candidates other) :
    edits.foldl FileTree.edit tree = tree := by
  refine FileTree.edits_of_refused fun e he => ?_
  obtain ⟨extension, hextension, hpath⟩ := mem_candidates_iff.1 (hedits e he)
  rw [hpath]
  exact hroot.lookup (isName_below hother hextension) (below_ne_nil other extension)

/-- **Services are isolated in a store of plain files.** -/
theorem source_isolated (store : Store) (hengine : store.engine = .file) {service other : String}
    (hservice : Service.check service = .ok ()) (hother : Service.check other = .ok ())
    (hne : service ≠ other) :
    (∀ (host : Host) (edits : List Edit), host.tree.Settled store.root →
      (∀ e ∈ edits, e.path ∈ store.candidates other) →
      ∀ mode, store.source { host with tree := edits.foldl FileTree.edit host.tree } service mode =
        store.source host service mode) ∧
    (∀ path ∈ store.candidates service, ∀ path' ∈ store.candidates other,
      Path.components path ≠ Path.components path') ∧
    ∀ host host' : Host,
      (∀ path ∈ store.candidates service, host'.tree.isFile path = host.tree.isFile path) →
      (∀ path, (store.candidates service).find? host.tree.isFile = some path →
        host'.tree.read path = host.tree.read path) →
      ∀ mode, store.source host' service mode = store.source host service mode := by
  refine ⟨fun host edits hroot hedits mode => ?_,
    fun path hpath path' hpath' => components_ne hservice hother hne hpath hpath',
    fun host host' hfiles hread => source_congr hengine hfiles hread⟩
  rcases hroot.anchored_or_barred with hroot | hroot
  · have hlookup {path : String} (hpath : path ∈ store.candidates service) {place : Place}
        {content : Bytes} {permissions : Permissions} :
        (edits.foldl FileTree.edit host.tree).lookup path = .ok (place, .file content permissions) ↔
          host.tree.lookup path = .ok (place, .file content permissions) :=
      lookup_edits hservice hother hne hroot hedits hpath
    refine source_congr hengine (fun path hpath => ?_) (fun path hfound => ?_) mode
    · rw [Bool.eq_iff_iff, FileTree.isFile_iff, FileTree.isFile_iff]
      simp only [hlookup hpath]
    · have hpath := List.mem_of_find?_eq_some hfound
      obtain ⟨place, content, permissions, hbefore⟩ :=
        FileTree.isFile_iff.1 (List.find?_some hfound)
      have hafter := (hlookup hpath).2 hbefore
      unfold FileTree.read
      rw [hbefore, hafter]
  · rw [edits_of_barred hother hroot hedits]

/-- Two services of which one has the other's document for a directory. -/
theorem source_isolated_document_directory :
    let store : Store := { root := "/store", engine := .file }
    let host : Host := { tree := ({} : FileTree).write "/store/a.env" (Utf8.encode "TOKEN=one") }
    let edits : List Edit :=
      [.write "/store/a.yaml/b.env" (Utf8.encode "TOKEN=two") none, .remove "/store/a.yaml/b.env"]
    let edited : Host := { host with tree := edits.foldl FileTree.edit host.tree }
    edited.tree.isDirectory "/store/a.yaml" = true ∧ host.tree.isDirectory "/store/a.yaml" = false ∧
      store.source edited "a" .paths = store.source host "a" .paths ∧
      (store.source host "a" .paths).map SecretSet.entries = .ok [("TOKEN", "one")] := by
  intro store host edits edited
  have hservice : Service.check "a" = .ok () := Service.check_eq_ok_iff.2 (by decide +kernel)
  have hother : Service.check "a.yaml/b" = .ok () := Service.check_eq_ok_iff.2 (by decide +kernel)
  have hsettled : host.tree.Settled store.root := FileTree.settled_of_not_up (by decide +kernel) _
  have hedits : ∀ e ∈ edits, e.path ∈ store.candidates "a.yaml/b" := by decide +kernel
  have hsame := (source_isolated store rfl hservice hother (by decide)).1 host edits hsettled hedits
    .paths
  exact ⟨by decide +kernel, by decide +kernel, hsame, by decide +kernel⟩

/-- Under a root that goes up from a directory which another service makes, a service comes to be
found when that service is written. -/
theorem source_changes_below_missing :
    let store : Store := { root := "c/..", engine := .file }
    let host : Host := { tree := ({} : FileTree).write "app.env" (Utf8.encode "TOKEN=one") }
    let edits : List Edit := [.write "c/../c/db.env" (Utf8.encode "TOKEN=two") none]
    let edited : Host := { host with tree := edits.foldl FileTree.edit host.tree }
    Service.check "app" = .ok () ∧ Service.check "c/db" = .ok () ∧
      (∀ e ∈ edits, e.path ∈ store.candidates "c/db") ∧
      store.source host "app" .paths =
        .error (.notFound "app" "c/../app.\x7byaml,yml,json,env\x7d") ∧
      (store.source edited "app" .paths).map SecretSet.entries = .ok [("TOKEN", "one")] := by
  intro store host edits edited
  have hservice : Service.check "app" = .ok () := Service.check_eq_ok_iff.2 (by decide +kernel)
  have hother : Service.check "c/db" = .ok () := Service.check_eq_ok_iff.2 (by decide +kernel)
  have hmissing : store.locate host.tree "app" =
      .error (.notFound "app" "c/../app.\x7byaml,yml,json,env\x7d") := by decide +kernel
  have hbefore : store.source host "app" .paths =
      .error (.notFound "app" "c/../app.\x7byaml,yml,json,env\x7d") := by
    unfold source fetchWith
    rw [hmissing]
    rfl
  exact ⟨hservice, hother, by decide +kernel, hbefore, by decide +kernel⟩

end EnvInject.Store
