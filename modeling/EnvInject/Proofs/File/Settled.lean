import EnvInject.Proofs.File.Changes

/-!
# What is found in a tree

Where a path goes up it depends on what stands along it: `c/..` leads nowhere before there is a `c`. A
path that is settled does not: a change that leaves a file leaves the way to it, and whatever is in the
way stays there.

* `walk_names_eq_ok_iff` : parts that do not go up find just what stands where they lead;
* `Settled` : up to its last `..` the path does not run into something missing (`settled_of_not_up`,
  `settled_of_lookup`);
* `Settled.anchored_or_barred` : it leads to a directory there, or something is in the way;
* `Spares.lookup_file_iff` : below an anchored path a file that a change leaves is found as before;
* `Barred.lookup` : below a barred path whatever is asked for is refused.
-/

namespace EnvInject.FileTree

open EnvInject.Path (IsName)

variable {tree tree' : FileTree} {touched : Place → Prop}

/-! ## Walking to what stands there -/

theorem directory_above {parts : List String} {name : String}
    (hup : ".." ∉ parts) (hname : IsName name) {place : Place} {node : FileNode}
    (hnode : tree.node? (follow place (parts ++ [name])) = some node) :
    tree.node? place = some .directory := by
  obtain ⟨below, hbelow⟩ := follow_below hup place
  rw [follow_append, follow_name hname, hbelow, List.append_assoc] at hnode
  exact tree.rooted place _ node (by simp) hnode

/-- What stands where the parts lead is found by walking there. -/
theorem walk_of_node? {parts : List String} {name : String}
    (hup : ".." ∉ parts) (hname : IsName name)
    (hshort : ∀ part ∈ parts ++ [name], part.utf8ByteSize ≤ maxNameBytes) {place : Place}
    {node : FileNode} (hnode : tree.node? (follow place (parts ++ [name])) = some node) :
    tree.walk place (parts ++ [name]) = .ok (follow place (parts ++ [name]), node) := by
  -- what stands at the end keeps every place on the way a directory
  induction parts generalizing place with
  | nil =>
    have hdirectory := directory_above hup hname hnode
    have hstay : ¬ (name = "" ∨ name = ".") := not_or.2 ⟨hname.ne_empty, hname.ne_here⟩
    have hlong : ¬ maxNameBytes < name.utf8ByteSize := Nat.not_lt.2 (hshort name (by simp))
    rw [List.nil_append, follow_name hname] at hnode ⊢
    rw [walk_cons_of_directory [] hdirectory, if_neg (by simpa using hstay), if_neg hname.ne_up,
      if_neg hlong]
    exact walk_nil_eq_ok.2 ⟨rfl, hnode⟩
  | cons part rest ih =>
    have hdirectory := directory_above hup hname hnode
    obtain ⟨hpart, hrest⟩ := not_or.1 (mt List.mem_cons.2 hup)
    rw [List.cons_append] at hshort hnode ⊢
    obtain ⟨hfits, hshort⟩ := List.forall_mem_cons.1 hshort
    rw [follow_cons] at hnode ⊢
    rw [walk_cons_of_directory _ hdirectory]
    by_cases hstay : part = "" ∨ part = "."
    · rw [follow_stay hstay] at hnode ⊢
      rw [if_pos (by simpa using hstay)]
      exact ih hrest hshort hnode
    · rw [follow_step hstay (Ne.symm hpart)] at hnode ⊢
      rw [if_neg (by simpa using hstay), if_neg (Ne.symm hpart), if_neg (Nat.not_lt.2 hfits)]
      exact ih hrest hshort hnode

theorem walk_names_eq_ok_iff {parts : List String} {name : String}
    (hup : ".." ∉ parts) (hname : IsName name) {place p : Place} {node : FileNode} :
    tree.walk place (parts ++ [name]) = .ok (p, node) ↔
      (∀ part ∈ parts ++ [name], part.utf8ByteSize ≤ maxNameBytes) ∧
        p = follow place (parts ++ [name]) ∧ tree.node? p = some node := by
  constructor
  · intro hwalk
    exact ⟨walk_short hwalk, walk_eq_ok hwalk⟩
  · rintro ⟨hshort, rfl, hnode⟩
    exact walk_of_node? hup hname hshort hnode

theorem Spares.walk_directory (h : tree.Spares touched tree') {place top : Place}
    {parts : List String} (hwalk : tree.walk place parts = .ok (top, .directory)) :
    tree'.walk place parts = .ok (top, .directory) := by
  induction parts generalizing place with
  | nil =>
    obtain ⟨rfl, hnode⟩ := walk_nil_eq_ok.1 hwalk
    exact walk_nil_eq_ok.2 ⟨rfl, h.directories _ hnode⟩
  | cons part rest ih =>
    have hdirectory := walk_cons_eq_ok hwalk
    rw [walk_cons_of_directory rest hdirectory] at hwalk
    rw [walk_cons_of_directory rest (h.directories _ hdirectory)]
    split_ifs at hwalk ⊢
    · exact ih hwalk
    · exact ih hwalk
    · exact ih hwalk

/-! ## Paths that go up -/

/-- Up to its last `..`, if there is one, the path does not run into something missing. -/
def Settled (tree : FileTree) (path : String) : Prop :=
  ∃ front rest, Text.split '/' path = front ++ rest ∧ ".." ∉ rest ∧
    (front = [] ∨ tree.walk (tree.origin path) front ≠ .error .notFound)

/-- Up to its last `..`, if there is one, the path leads to a directory. -/
def Anchored (tree : FileTree) (path : String) : Prop :=
  ∃ front rest, Text.split '/' path = front ++ rest ∧ ".." ∉ rest ∧
    (front = [] ∨ ∃ top, tree.walk (tree.origin path) front = .ok (top, .directory))

/-- Something is in the way of whatever is below the path. -/
def Barred (tree : FileTree) (path : String) : Prop :=
  ∃ e ≠ .notFound, ∀ names ≠ [],
    tree.walk (tree.origin path) (Text.split '/' path ++ names) = .error e

theorem Settled.anchored_or_barred {path : String} (h : tree.Settled path) :
    tree.Anchored path ∨ tree.Barred path := by
  obtain ⟨front, rest, hsplit, hup, hfront⟩ := h
  rcases hfront with hfront | hfront
  · exact .inl ⟨front, rest, hsplit, hup, .inl hfront⟩
  · cases hwalk : tree.walk (tree.origin path) front with
    | error e =>
      refine .inr ⟨e, fun he => hfront (he ▸ hwalk), fun names _ => ?_⟩
      rw [hsplit, List.append_assoc, walk_append, hwalk]
      rfl
    | ok r =>
      obtain ⟨top, node⟩ := r
      cases node with
      | directory => exact .inl ⟨front, rest, hsplit, hup, .inr ⟨top, hwalk⟩⟩
      | file content permissions =>
        refine .inr ⟨.notADirectory, nofun, fun names hnames => ?_⟩
        obtain ⟨part, parts, hparts⟩ := List.exists_cons_of_ne_nil
          (List.append_ne_nil_of_right_ne_nil rest hnames)
        have hnode := (FileTree.walk_eq_ok hwalk).2
        rw [hsplit, List.append_assoc, walk_append, hwalk, hparts]
        show tree.walk top (part :: parts) = .error .notADirectory
        rw [walk, hnode]

theorem settled_of_not_up {path : String} (h : ".." ∉ Text.split '/' path) (tree : FileTree) :
    tree.Settled path :=
  ⟨[], Text.split '/' path, rfl, h, .inl rfl⟩

/-- A path that leads to something is settled, also where it goes up. -/
theorem settled_of_lookup {path : String} {r : Place × FileNode} (h : tree.lookup path = .ok r) :
    tree.Settled path := by
  have hwalk := (lookup_eq_ok_iff.1 h).2
  refine ⟨Text.split '/' path, [], (List.append_nil _).symm, List.not_mem_nil, .inr ?_⟩
  rw [hwalk]
  nofun

/-- Before and after a change an anchored path goes on from one place, and from there not up. -/
theorem Spares.walk_anchored (h : tree.Spares touched tree') {base : String}
    (hbase : tree.Anchored base) :
    ∃ top rest, ".." ∉ rest ∧
      follow (tree.origin base) (Text.split '/' base) = follow top rest ∧
      (∀ parts, tree.walk (tree.origin base) (Text.split '/' base ++ parts) =
        tree.walk top (rest ++ parts)) ∧
      ∀ parts, tree'.walk (tree'.origin base) (Text.split '/' base ++ parts) =
        tree'.walk top (rest ++ parts) := by
  obtain ⟨front, rest, hsplit, hup, hfront⟩ := hbase
  rw [hsplit, h.origin]
  rcases hfront with rfl | ⟨top, hwalk⟩
  · exact ⟨tree.origin base, rest, hup, rfl, fun parts => rfl, fun parts => rfl⟩
  · refine ⟨top, rest, hup, ?_, fun parts => ?_, fun parts => ?_⟩
    · rw [follow_append, ← (FileTree.walk_eq_ok hwalk).1]
    · rw [List.append_assoc, walk_append, hwalk]
      rfl
    · rw [List.append_assoc, walk_append, h.walk_directory hwalk]
      rfl

/-- Below an anchored path a file that a change leaves is found as before. -/
theorem Spares.lookup_file_iff (h : tree.Spares touched tree') {base : String}
    (hbase : tree.Anchored base) {names : List String}
    (hnames : ∀ name ∈ names, IsName name) (hne : names ≠ [])
    (hplace : ¬ touched (tree.placeOf (names.foldl Path.join base))) {p : Place} {content : Bytes}
    {permissions : Permissions} :
    tree'.lookup (names.foldl Path.join base) = .ok (p, .file content permissions) ↔
      tree.lookup (names.foldl Path.join base) = .ok (p, .file content permissions) := by
  obtain ⟨top, rest, hup, hfollow, hwalk, hwalk'⟩ := h.walk_anchored hbase
  obtain ⟨init, last, hlast⟩ : ∃ init last, names = init ++ [last] :=
    ⟨_, _, (List.dropLast_concat_getLast hne).symm⟩
  have hname : IsName last := hnames last (by simp [hlast])
  have hupInit : ".." ∉ rest ++ init := by
    intro hmem
    rcases List.mem_append.1 hmem with hrest | hinit
    · exact hup hrest
    · exact (hnames ".." (by simp [hlast, hinit])).ne_up rfl
  have hparts : rest ++ names = rest ++ init ++ [last] := by rw [hlast, List.append_assoc]
  have hend : tree.placeOf (names.foldl Path.join base) = follow top (rest ++ init ++ [last]) := by
    rw [placeOf_eq, origin_foldl_join hnames, follow_split_foldl_join hnames, hfollow, ← hparts,
      follow_append, follow_names hnames]
  rw [hend] at hplace
  rw [lookup_eq_ok_iff, lookup_eq_ok_iff, walk_split_foldl_join hnames,
    walk_split_foldl_join hnames, origin_foldl_join hnames, origin_foldl_join hnames, hwalk, hwalk',
    hparts, walk_names_eq_ok_iff hupInit hname, walk_names_eq_ok_iff hupInit hname]
  refine and_congr_right fun _ => and_congr_right fun _ => and_congr_right ?_
  rintro rfl
  exact h.files _ hplace content permissions

/-- Whatever is below a barred path is refused, and not for being absent. -/
theorem Barred.lookup {base : String} (h : tree.Barred base) {names : List String}
    (hnames : ∀ name ∈ names, IsName name) (hne : names ≠ []) :
    ∃ e ≠ .notFound, tree.lookup (names.foldl Path.join base) = .error e := by
  obtain ⟨e, he, hwalk⟩ := h
  have hpath : names.foldl Path.join base ≠ "" := by
    intro hempty
    have hnil : Path.components "" = [] := by decide
    have hcomponents := Path.components_foldl_join hnames base
    rw [hempty, hnil] at hcomponents
    exact hne (List.map_eq_nil_iff.1 (List.append_eq_nil_iff.1 hcomponents.symm).2)
  unfold FileTree.lookup
  split
  · exact ⟨.nulInPath, nofun, rfl⟩
  · rw [if_neg (by simpa using hpath)]
    split
    · exact ⟨.nameTooLong, nofun, rfl⟩
    · refine ⟨e, he, ?_⟩
      rw [walk_split_foldl_join hnames, origin_foldl_join hnames]
      exact hwalk names hne

end EnvInject.FileTree
