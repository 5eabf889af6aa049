import EnvInject.File.Tree
import EnvInject.Proofs.File.Joining
import Mathlib.Tactic.SplitIfs

/-!
# Walking a path

A walk along a path is the walk along its front and then along the rest. Where it ends is what the
parts say, whatever stands in the tree; the tree only decides whether it gets there.

* `FileTree.follow` : where the parts lead (`follow_append`, `follow_names`);
* `walk_append`, `walk_split_join` : walks in pieces, and along a joined path;
* `walk_eq_ok` : a walk that succeeds ends where the parts lead;
* `lookup_eq_ok_iff` : looking up is walking, for a path that the system takes;
* `LeadsTo` : the path leads to a directory; `lookup_below` : what is found below it.
-/

namespace EnvInject.FileTree

open EnvInject.Path (IsName)

variable {tree : FileTree}

/-! ## Where parts lead -/

/-- The place to which the parts lead from a place. -/
def follow (place : Place) (parts : List String) : Place :=
  parts.foldl (fun place part =>
      if part = "" || part = "." then place
      else if part = ".." then place.dropLast
      else place ++ [part])
    place

theorem placeOf_eq (tree : FileTree) (path : String) :
    tree.placeOf path = follow (tree.origin path) (Text.split '/' path) := rfl

theorem follow_append (place : Place) (front rest : List String) :
    follow place (front ++ rest) = follow (follow place front) rest :=
  List.foldl_append

theorem follow_cons (place : Place) (part : String) (rest : List String) :
    follow place (part :: rest) = follow (follow place [part]) rest := rfl

theorem follow_stay {part : String} (h : part = "" ∨ part = ".") (place : Place) :
    follow place [part] = place := by
  simp [follow, h]

theorem follow_step {part : String} (hstay : ¬ (part = "" ∨ part = ".")) (hup : part ≠ "..")
    (place : Place) : follow place [part] = place ++ [part] := by
  obtain ⟨hempty, hhere⟩ := not_or.1 hstay
  simp [follow, hempty, hhere, hup]

theorem follow_name {name : String} (h : IsName name) (place : Place) :
    follow place [name] = place ++ [name] :=
  follow_step (not_or.2 ⟨h.ne_empty, h.ne_here⟩) h.ne_up place

theorem follow_names {names : List String} (h : ∀ name ∈ names, IsName name) (place : Place) :
    follow place names = place ++ names := by
  induction names generalizing place with
  | nil => exact (List.append_nil place).symm
  | cons name rest ih =>
    obtain ⟨hname, hrest⟩ := List.forall_mem_cons.1 h
    rw [follow_cons, follow_name hname, ih hrest, List.append_assoc, List.singleton_append]

/-- Parts that do not go up lead on from where they start. -/
theorem follow_below {parts : List String} (hup : ".." ∉ parts) (place : Place) :
    ∃ below, follow place parts = place ++ below := by
  induction parts generalizing place with
  | nil => exact ⟨[], (List.append_nil place).symm⟩
  | cons part rest ih =>
    obtain ⟨hpart, hrest⟩ := not_or.1 (mt List.mem_cons.2 hup)
    rw [follow_cons]
    by_cases hstay : part = "" ∨ part = "."
    · rw [follow_stay hstay]
      exact ih hrest place
    · rw [follow_step hstay (Ne.symm hpart)]
      obtain ⟨below, hbelow⟩ := ih hrest (place ++ [part])
      exact ⟨part :: below, by rw [hbelow, List.append_assoc, List.singleton_append]⟩

theorem follow_split_join {name : String} (h : IsName name) (place : Place) (base : String) :
    follow place (Text.split '/' (Path.join base name)) =
      follow place (Text.split '/' base) ++ [name] := by
  obtain ⟨kept, hbase, hjoin⟩ := Path.split_join base h.isAbsolute
  rw [hjoin, h.split, follow_append, follow_name h]
  rcases hbase with hbase | hbase
  · rw [hbase]
  · rw [hbase, follow_append, follow_stay (.inl rfl)]

theorem follow_split_foldl_join {names : List String} (h : ∀ name ∈ names, IsName name)
    (place : Place) (base : String) :
    follow place (Text.split '/' (names.foldl Path.join base)) =
      follow place (Text.split '/' base) ++ names := by
  induction names generalizing base with
  | nil => exact (List.append_nil _).symm
  | cons name rest ih =>
    obtain ⟨hname, hrest⟩ := List.forall_mem_cons.1 h
    rw [List.foldl_cons, ih hrest, follow_split_join hname, List.append_assoc,
      List.singleton_append]

/-! ## Walks in pieces -/

theorem walk_nil (tree : FileTree) (place : Place) :
    tree.walk place [] = match tree.node? place with
      | some node => .ok (place, node)
      | none => .error .notFound := by
  unfold walk
  cases tree.node? place <;> rfl

theorem walk_nil_eq_ok {place p : Place} {node : FileNode} :
    tree.walk place [] = .ok (p, node) ↔ p = place ∧ tree.node? place = some node := by
  rw [walk_nil]
  cases tree.node? place with
  | none => simp
  | some found => simp [eq_comm]

theorem walk_cons_of_directory {place : Place} {part : String} (rest : List String)
    (h : tree.node? place = some .directory) :
    tree.walk place (part :: rest) =
      if part = "" || part = "." then tree.walk place rest
      else if part = ".." then tree.walk place.dropLast rest
      else if maxNameBytes < part.utf8ByteSize then .error .nameTooLong
      else tree.walk (place ++ [part]) rest := by
  rw [walk, h]

theorem walk_cons_eq_ok {place : Place} {part : String} {rest : List String}
    {r : Place × FileNode} (h : tree.walk place (part :: rest) = .ok r) :
    tree.node? place = some .directory := by
  rw [walk] at h
  split at h
  · cases h
  · cases h
  · assumption

/-- A walk that cannot go on fails alike wherever it was to go. -/
theorem walk_cons_of_not_directory {place : Place} (h : tree.node? place ≠ some .directory) :
    ∃ e, ∀ part rest, tree.walk place (part :: rest) = .error e := by
  cases hnode : tree.node? place with
  | none => exact ⟨.notFound, fun part rest => by rw [walk, hnode]⟩
  | some node =>
    cases node with
    | file content permissions => exact ⟨.notADirectory, fun part rest => by rw [walk, hnode]⟩
    | directory => exact absurd hnode h

theorem walk_append (tree : FileTree) (place : Place) (front rest : List String) :
    tree.walk place (front ++ rest) =
      (tree.walk place front).bind fun r => tree.walk r.1 rest := by
  induction front generalizing place with
  | nil =>
    rw [List.nil_append, walk_nil]
    cases hnode : tree.node? place with
    | some node => rfl
    | none =>
      cases rest with
      | nil => rw [walk_nil, hnode]; rfl
      | cons part rest => rw [walk, hnode]; rfl
  | cons part front ih =>
    by_cases hnode : tree.node? place = some .directory
    · rw [List.cons_append, walk_cons_of_directory _ hnode, walk_cons_of_directory _ hnode]
      simp only [ih]
      split_ifs <;> rfl
    · obtain ⟨e, he⟩ := walk_cons_of_not_directory hnode
      rw [List.cons_append, he, he]
      rfl

/-- Before another part an empty one says nothing. -/
theorem walk_empty_cons (tree : FileTree) (place : Place) (part : String) (rest : List String) :
    tree.walk place ("" :: part :: rest) = tree.walk place (part :: rest) := by
  by_cases hnode : tree.node? place = some .directory
  · rw [walk_cons_of_directory _ hnode]
    simp
  · obtain ⟨e, he⟩ := walk_cons_of_not_directory hnode
    rw [he, he]

theorem walk_split_join {name : String} (h : IsName name) (place : Place) (base : String) :
    tree.walk place (Text.split '/' (Path.join base name)) =
      tree.walk place (Text.split '/' base ++ [name]) := by
  obtain ⟨kept, hbase, hjoin⟩ := Path.split_join base h.isAbsolute
  rw [hjoin, h.split]
  rcases hbase with hbase | hbase
  · rw [hbase]
  · rw [hbase, List.append_assoc, walk_append, walk_append]
    simp only [List.singleton_append, walk_empty_cons]

theorem walk_split_foldl_join {names : List String} (h : ∀ name ∈ names, IsName name)
    (place : Place) (base : String) :
    tree.walk place (Text.split '/' (names.foldl Path.join base)) =
      tree.walk place (Text.split '/' base ++ names) := by
  induction names generalizing base with
  | nil => rw [List.foldl_nil, List.append_nil]
  | cons name rest ih =>
    obtain ⟨hname, hrest⟩ := List.forall_mem_cons.1 h
    rw [List.foldl_cons, ih hrest, walk_append, walk_split_join hname, ← walk_append,
      List.append_assoc, List.singleton_append]

/-- A walk that succeeds ends where its parts lead. -/
theorem walk_eq_ok {place p : Place} {parts : List String} {node : FileNode}
    (h : tree.walk place parts = .ok (p, node)) :
    p = follow place parts ∧ tree.node? p = some node := by
  induction parts generalizing place with
  | nil =>
    obtain ⟨rfl, hnode⟩ := walk_nil_eq_ok.1 h
    exact ⟨rfl, hnode⟩
  | cons part rest ih =>
    rw [walk_cons_of_directory rest (walk_cons_eq_ok h)] at h
    rw [follow_cons]
    simp only [follow, List.foldl_cons, List.foldl_nil]
    split_ifs at h ⊢ with hhere hup
    · exact ih h
    · exact ih h
    · exact ih h

theorem walk_short {place : Place} {parts : List String} {r : Place × FileNode}
    (h : tree.walk place parts = .ok r) : ∀ part ∈ parts, part.utf8ByteSize ≤ maxNameBytes := by
  induction parts generalizing place with
  | nil => simp
  | cons part rest ih =>
    have hempty : "".utf8ByteSize ≤ maxNameBytes := by decide
    have hhere : ".".utf8ByteSize ≤ maxNameBytes := by decide
    have hup : "..".utf8ByteSize ≤ maxNameBytes := by decide
    rw [walk_cons_of_directory rest (walk_cons_eq_ok h)] at h
    rw [List.forall_mem_cons]
    split_ifs at h with hstay hback hlong
    · have hpart : part = "" ∨ part = "." := by simpa using hstay
      exact ⟨by rcases hpart with rfl | rfl <;> assumption, ih h⟩
    · exact ⟨by rwa [hback], ih h⟩
    · exact ⟨Nat.not_lt.1 hlong, ih h⟩

/-- Below a directory a walk along names ends at the names. -/
theorem walk_append_names_eq_ok {place p : Place} {parts names : List String} {node : FileNode}
    (hnames : ∀ name ∈ names, IsName name) (hne : names ≠ [])
    (h : tree.walk place (parts ++ names) = .ok (p, node)) :
    ∃ top, tree.walk place parts = .ok (top, .directory) ∧ p = top ++ names := by
  rw [walk_append] at h
  cases hfront : tree.walk place parts with
  | error e =>
    rw [hfront] at h
    cases h
  | ok r =>
    obtain ⟨top, found⟩ := r
    rw [hfront] at h
    have hrest : tree.walk top names = .ok (p, node) := h
    obtain ⟨name, rest, rfl⟩ := List.exists_cons_of_ne_nil hne
    have hdirectory := walk_cons_eq_ok hrest
    rw [(walk_eq_ok hfront).2] at hdirectory
    obtain rfl := Option.some.inj hdirectory
    exact ⟨top, rfl, (walk_eq_ok hrest).1.trans (follow_names hnames top)⟩

/-! ## Looking up -/

/-- The system takes the path: it is not empty, not too long and without a NUL. -/
def IsUsable (path : String) : Prop :=
  Char.ofNat 0 ∉ path.toList ∧ path ≠ "" ∧ path.utf8ByteSize < pathBytesBound

theorem lookup_eq_ok_iff {path : String} {r : Place × FileNode} :
    tree.lookup path = .ok r ↔
      IsUsable path ∧ tree.walk (tree.origin path) (Text.split '/' path) = .ok r := by
  unfold lookup IsUsable
  by_cases hnul : Char.ofNat 0 ∈ path.toList
  · simp [hnul]
  · by_cases hempty : path = ""
    · simp [hempty]
    · by_cases hlong : pathBytesBound ≤ path.utf8ByteSize
      · have hnot : ¬ path.utf8ByteSize < pathBytesBound := Nat.not_lt.2 hlong
        simp [hnul, hempty, hlong, hnot]
      · have hshort : path.utf8ByteSize < pathBytesBound := Nat.not_le.1 hlong
        simp [hnul, hempty, hlong, hshort]

/-- The path leads to the directory at a place. -/
def LeadsTo (tree : FileTree) (path : String) (place : Place) : Prop :=
  tree.walk (tree.origin path) (Text.split '/' path) = .ok (place, .directory)

theorem origin_foldl_join {names : List String} (h : ∀ name ∈ names, IsName name) (tree : FileTree)
    (base : String) : tree.origin (names.foldl Path.join base) = tree.origin base := by
  unfold origin
  rw [Path.isAbsolute_foldl_join h]

/-- What is found at names below a path stands there in the tree. -/
theorem lookup_below {names : List String} (hnames : ∀ name ∈ names, IsName name) (hne : names ≠ [])
    {base : String} {p : Place} {node : FileNode}
    (h : tree.lookup (names.foldl Path.join base) = .ok (p, node)) :
    ∃ top, tree.LeadsTo base top ∧ p = top ++ names := by
  have hwalk := (lookup_eq_ok_iff.1 h).2
  rw [walk_split_foldl_join hnames, origin_foldl_join hnames] at hwalk
  exact walk_append_names_eq_ok hnames hne hwalk

theorem isFile_iff {path : String} :
    tree.isFile path = true ↔
      ∃ place content permissions, tree.lookup path = .ok (place, .file content permissions) := by
  unfold isFile
  cases hlookup : tree.lookup path with
  | error e => simp
  | ok r =>
    obtain ⟨place, node⟩ := r
    cases node <;> simp

end EnvInject.FileTree
