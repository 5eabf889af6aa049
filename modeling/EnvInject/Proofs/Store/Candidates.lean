import EnvInject.Proofs.File.Walking
import EnvInject.Proofs.Service.Grammar
import EnvInject.Store

/-!
# Where a service's document may be

The segments of an accepted service name are names: none of them is empty, `.` or `..`. So every
candidate lies below the root of the store, one level down for each segment, whatever the root is.

* `Service.isName_of_check` : the segments of an accepted name;
* `Store.below` : the names from the root to a candidate (`candidate_eq`, `isName_below`);
* `below_injective` : they tell service and extension;
* `locate_eq_ok_iff_find?` : the document that is found is the first candidate that is a file;
* `fetchWith_congr` : a fetch reads that document alone;
* `candidates_below_root` : the components of the candidates, and the place of what is read.
-/

namespace EnvInject

open EnvInject.Path (IsName)

/-! ## Segments -/

/-- The segments of an accepted name each lead one step down. -/
theorem Service.isName_of_check {name : String} (h : check name = .ok ()) :
    ∀ segment ∈ segments name, IsName segment := by
  intro segment hsegment
  have hgood : IsSegment segment := isServiceName_iff.1 (check_eq_ok_iff.1 h).2 segment hsegment
  exact ⟨hgood.nonempty, hgood.notDot, hgood.notDots, hgood.notMem_slash⟩

namespace Store

/-! ## Below the root -/

/-- The names that lead from the root of a store to the document of a service. -/
def below (service extension : String) : List String :=
  (Service.segments service).dropLast ++
    [(Service.segments service).getLast?.getD service ++ "." ++ extension]

theorem below_eq {service : String} {front : List String} {last : String}
    (h : Service.segments service = front ++ [last]) (extension : String) :
    below service extension = front ++ [last ++ "." ++ extension] := by
  simp [below, h]

theorem exists_segments (service : String) :
    ∃ front last, Service.segments service = front ++ [last] := by
  have hne : Service.segments service ≠ [] := Text.split_ne_nil '/' service
  exact ⟨_, _, (List.dropLast_concat_getLast hne).symm⟩

theorem candidate_eq (store : Store) (service extension : String) :
    store.candidate service extension = (below service extension).foldl Path.join store.root := by
  unfold candidate target below Service.segments
  rw [List.foldl_append]
  rfl

theorem mem_candidates_iff {store : Store} {service path : String} :
    path ∈ store.candidates service ↔
      ∃ extension ∈ extensions, path = (below service extension).foldl Path.join store.root := by
  simp [candidates, candidate_eq, eq_comm]

/-- A segment with an extension is a name. -/
theorem isName_document {segment extension : String} (hsegment : '/' ∉ segment.toList)
    (hextension : extension ∈ extensions) : IsName (segment ++ "." ++ extension) := by
  have hlong : 3 ≤ extension.toList.length := by
    simp only [extensions, List.mem_cons, List.not_mem_nil, or_false] at hextension
    rcases hextension with rfl | rfl | rfl | rfl <;> decide
  have hslash : '/' ∉ extension.toList := by
    simp only [extensions, List.mem_cons, List.not_mem_nil, or_false] at hextension
    rcases hextension with rfl | rfl | rfl | rfl <;> decide
  have hlist : (segment ++ "." ++ extension).toList =
      segment.toList ++ '.' :: extension.toList := by simp
  have hlength (other : String) (hother : other.toList.length < 4) :
      segment ++ "." ++ extension ≠ other := by
    rintro rfl
    rw [hlist, List.length_append, List.length_cons] at hother
    omega
  refine ⟨hlength "" (by decide), hlength "." (by decide), hlength ".." (by decide), ?_⟩
  rw [hlist]
  simp [hsegment, hslash]

theorem isName_below {service extension : String} (h : Service.check service = .ok ())
    (hextension : extension ∈ extensions) : ∀ name ∈ below service extension, IsName name := by
  obtain ⟨front, last, hsegments⟩ := exists_segments service
  have hnames := Service.isName_of_check h
  rw [hsegments] at hnames
  rw [below_eq hsegments]
  intro name hname
  rcases List.mem_append.1 hname with hfront | hlast
  · exact hnames name (List.mem_append_left _ hfront)
  · rw [List.mem_singleton.1 hlast]
    exact isName_document (hnames last (by simp)).notMem_slash hextension

theorem below_ne_nil (service extension : String) : below service extension ≠ [] := by
  simp [below]

theorem notMem_dot : ∀ extension ∈ extensions, '.' ∉ extension.toList := by decide

/-- What stands before the last dot, and the extension after it, are told by the whole. -/
theorem document_injective {segment segment' extension extension' : String}
    (hextension : '.' ∉ extension.toList) (hextension' : '.' ∉ extension'.toList)
    (h : segment ++ "." ++ extension = segment' ++ "." ++ extension') :
    segment = segment' ∧ extension = extension' := by
  have hsplit (segment extension : String) (hdot : '.' ∉ extension.toList) :
      Text.split '.' (segment ++ "." ++ extension) = Text.split '.' segment ++ [extension] := by
    have hlist : (segment ++ "." ++ extension).toList =
        segment.toList ++ '.' :: extension.toList := by simp
    rw [Text.split_append_cons hlist, Text.split_of_notMem hdot]
  have hparts : Text.split '.' segment ++ [extension] = Text.split '.' segment' ++ [extension'] := by
    rw [← hsplit _ _ hextension, ← hsplit _ _ hextension', h]
  obtain ⟨hsegment, hlast⟩ := List.append_inj' hparts rfl
  exact ⟨Text.split_injective hsegment, List.singleton_inj.1 hlast⟩

/-- The names below the root tell the service and the extension. -/
theorem below_injective {service other extension extension' : String}
    (hextension : extension ∈ extensions) (hextension' : extension' ∈ extensions)
    (h : below service extension = below other extension') :
    service = other ∧ extension = extension' := by
  obtain ⟨front, last, hsegments⟩ := exists_segments service
  obtain ⟨front', last', hsegments'⟩ := exists_segments other
  rw [below_eq hsegments, below_eq hsegments'] at h
  obtain ⟨rfl, hname⟩ := List.append_inj' h rfl
  obtain ⟨rfl, hsame⟩ := document_injective (notMem_dot _ hextension) (notMem_dot _ hextension')
    (List.singleton_inj.1 hname)
  exact ⟨Text.split_injective (hsegments.trans hsegments'.symm), hsame⟩

/-! ## The candidates of an accepted service -/

theorem locate_eq_ok_iff_find? {store : Store} {tree : FileTree} {service path : String} :
    store.locate tree service = .ok path ↔
      (store.candidates service).find? tree.isFile = some path := by
  unfold locate
  cases (store.candidates service).find? tree.isFile with
  | none => exact ⟨nofun, nofun⟩
  | some found => rw [Except.ok.injEq, Option.some.injEq]

/-- A fetch asks its reader for the document that is found, and for no other. -/
theorem fetchWith_congr {store : Store} {tree : FileTree} {service : String}
    {read read' : DocumentReader}
    (h : ∀ path, store.locate tree service = .ok path → read service path = read' service path)
    (mode : KeyMode) :
    store.fetchWith tree read service mode = store.fetchWith tree read' service mode := by
  unfold fetchWith
  cases hlocate : store.locate tree service with
  | error e => rfl
  | ok path =>
    change (read service path >>= _) = (read' service path >>= _)
    rw [h path hlocate]

theorem mem_candidates_of_locate {store : Store} {tree : FileTree} {service path : String}
    (h : store.locate tree service = .ok path) :
    path ∈ store.candidates service ∧ tree.isFile path = true := by
  have hfind := locate_eq_ok_iff_find?.1 h
  exact ⟨List.mem_of_find?_eq_some hfind, List.find?_some hfind⟩

/-- **Every candidate lies below the root**, one level down for each segment of the service. -/
theorem candidates_below_root (store : Store) {service : String}
    (h : Service.check service = .ok ()) :
    ∃ front last, Service.segments service = front ++ [last] ∧
      "/".intercalate (front ++ [last]) = service ∧
      (store.candidates service).map Path.components =
        ["yaml", "yml", "json", "env"].map (fun extension =>
          Path.components store.root ++ (front ++ [last ++ "." ++ extension]).map .name) ∧
      (∀ extension ∈ ["yaml", "yml", "json", "env"],
        ∀ name ∈ front ++ [last ++ "." ++ extension],
          name ≠ "" ∧ name ≠ "." ∧ name ≠ ".." ∧ '/' ∉ name.toList) ∧
      (∀ (tree : FileTree) (path : String), store.locate tree service = .ok path →
        ∃ extension ∈ ["yaml", "yml", "json", "env"], ∃ top content permissions,
          tree.LeadsTo store.root top ∧
          tree.lookup path = .ok (top ++ (front ++ [last ++ "." ++ extension]),
            .file content permissions)) ∧
      ∀ (tree : FileTree) (read read' : DocumentReader),
        (∀ path, store.locate tree service = .ok path → read service path = read' service path) →
        ∀ mode, store.fetchWith tree read service mode = store.fetchWith tree read' service mode := by
  obtain ⟨front, last, hsegments⟩ := exists_segments service
  refine ⟨front, last, hsegments, ?_, ?_, ?_, ?_, fun tree read read' => fetchWith_congr⟩
  · rw [← hsegments]
    exact Text.intercalate_split '/' service
  · unfold candidates
    rw [List.map_map]
    refine List.map_congr_left fun extension hextension => ?_
    rw [Function.comp_apply, candidate_eq,
      Path.components_foldl_join (isName_below h hextension), below_eq hsegments]
  · intro extension hextension name hname
    rw [← below_eq hsegments] at hname
    have hisName := isName_below h hextension name hname
    exact ⟨hisName.ne_empty, hisName.ne_here, hisName.ne_up, hisName.notMem_slash⟩
  · intro tree path hlocate
    obtain ⟨hmem, hfile⟩ := mem_candidates_of_locate hlocate
    obtain ⟨extension, hextension, rfl⟩ := mem_candidates_iff.1 hmem
    obtain ⟨place, content, permissions, hlookup⟩ := FileTree.isFile_iff.1 hfile
    obtain ⟨top, htop, rfl⟩ := FileTree.lookup_below (isName_below h hextension)
      (below_ne_nil service extension) hlookup
    exact ⟨extension, hextension, top, content, permissions, htop, by rw [hlookup, below_eq hsegments]⟩

/-- A nested service with dots in its name, in a store whose root goes up and ends in a slash. -/
theorem candidates_below_root_dots :
    let store : Store := { root := "../store/", engine := .file }
    let tree := (({ workingDirectory := ["work"] } : FileTree).makeDirectory "/work").write
      "/store/team/...a.json" (Utf8.encode "\x7b\x7d")
    Service.check "team/...a" = .ok () ∧
      (store.candidates "team/...a").map Path.components =
        [[.up, .name "store", .name "team", .name "...a.yaml"],
          [.up, .name "store", .name "team", .name "...a.yml"],
          [.up, .name "store", .name "team", .name "...a.json"],
          [.up, .name "store", .name "team", .name "...a.env"]] ∧
      store.locate tree "team/...a" = .ok "../store/team/...a.json" ∧
      tree.LeadsTo store.root ["store"] ∧
      (tree.lookup "../store/team/...a.json").map Prod.fst = .ok ["store", "team", "...a.json"] := by
  intro store tree
  have hcheck : Service.check "team/...a" = .ok () := Service.check_eq_ok_iff.2 (by decide +kernel)
  have hroot : Path.components store.root = [.up, .name "store"] := by decide +kernel
  have hteam : Service.segments "team/...a" = ["team"] ++ ["...a"] := by decide +kernel
  have hlocate : store.locate tree "team/...a" = .ok "../store/team/...a.json" := by decide +kernel
  have hplace : (tree.lookup "../store/team/...a.json").map Prod.fst =
      .ok ["store", "team", "...a.json"] := by decide +kernel
  obtain ⟨front, last, hsegments, -, hcomponents, -, hbelow, -⟩ :=
    candidates_below_root store hcheck
  obtain ⟨rfl, hlast⟩ := List.append_inj' (hsegments.symm.trans hteam) rfl
  obtain rfl := List.singleton_inj.1 hlast
  rw [hroot] at hcomponents
  refine ⟨hcheck, hcomponents, hlocate, ?_, hplace⟩
  obtain ⟨extension, -, top, content, permissions, hleads, hlookup⟩ := hbelow tree _ hlocate
  have hend : top ++ ["team", "...a." ++ extension] = ["store"] ++ ["team", "...a.json"] := by
    rw [hlookup] at hplace
    exact Except.ok.inj hplace
  obtain ⟨rfl, -⟩ := List.append_inj' hend rfl
  exact hleads

end Store

end EnvInject
