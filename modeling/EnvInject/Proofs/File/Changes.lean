import EnvInject.Proofs.File.Walking

/-!
# What a change leaves of a tree

Writing and removing files leaves the directories of a tree, and every file but the one at its place.

* `Spares` : what a change leaves as it was (`Spares.refl`, `Spares.trans`, `Spares.mono`);
* `spares_set`, `spares_makeAll`, `spares_write`, `spares_remove` : what each change leaves;
* `Edit` : writing or removing a file; `spares_edits` : what a run of edits leaves.
-/

namespace EnvInject.FileTree

variable {tree tree' : FileTree} {touched : Place → Prop}

theorem node?_nil (tree : FileTree) : tree.node? [] = some .directory := rfl

theorem node?_set {place : Place} (hparent : tree.node? place.dropLast = some .directory)
    (hplain : tree.node? place ≠ some .directory) (node : FileNode) (p : Place) :
    (tree.set place node).node? p = if p = place then some node else tree.node? p := by
  have hne : place ≠ [] := fun hnil => hplain (hnil ▸ node?_nil tree)
  unfold set
  rw [dif_pos ⟨hparent, hplain⟩]
  exact Nodes.at?_put hne tree.nodes node p

theorem workingDirectory_set (tree : FileTree) (place : Place) (node : FileNode) :
    (tree.set place node).workingDirectory = tree.workingDirectory := by
  unfold set
  split <;> rfl

theorem node?_remove (tree : FileTree) (path : String) (p : Place) :
    (tree.remove path).node? p =
      if p ≠ [] ∧ tree.placeOf path <+: p then none else tree.node? p :=
  Nodes.at?_cut tree.nodes (tree.placeOf path) p

/-! ## What a change leaves -/

/-- Directories stay, and outside `touched` the files stay and no other is there. -/
structure Spares (tree : FileTree) (touched : Place → Prop) (tree' : FileTree) : Prop where
  workingDirectory : tree'.workingDirectory = tree.workingDirectory
  directories : ∀ place, tree.node? place = some .directory → tree'.node? place = some .directory
  files : ∀ place, ¬ touched place → ∀ content permissions,
    tree'.node? place = some (.file content permissions) ↔
      tree.node? place = some (.file content permissions)

theorem Spares.origin (h : tree.Spares touched tree') (path : String) :
    tree'.origin path = tree.origin path := by
  unfold FileTree.origin
  rw [h.workingDirectory]

theorem Spares.placeOf (h : tree.Spares touched tree') (path : String) :
    tree'.placeOf path = tree.placeOf path := by
  rw [placeOf_eq, placeOf_eq, h.origin]

theorem Spares.refl (tree : FileTree) (touched : Place → Prop) : tree.Spares touched tree :=
  ⟨rfl, fun _ hp => hp, fun _ _ _ _ => Iff.rfl⟩

theorem Spares.trans {tree'' : FileTree} (h : tree.Spares touched tree')
    (h' : tree'.Spares touched tree'') : tree.Spares touched tree'' where
  workingDirectory := h'.workingDirectory.trans h.workingDirectory
  directories place hplace := h'.directories place (h.directories place hplace)
  files place hplace content permissions :=
    (h'.files place hplace content permissions).trans (h.files place hplace content permissions)

theorem Spares.mono {touched' : Place → Prop} (h : tree.Spares touched tree')
    (hsub : ∀ place, touched place → touched' place) : tree.Spares touched' tree' :=
  { h with files := fun place hplace => h.files place fun ht => hplace (hsub place ht) }

theorem spares_set {place : Place} (hparent : tree.node? place.dropLast = some .directory)
    (hplain : tree.node? place ≠ some .directory) (node : FileNode) :
    tree.Spares (· = place) (tree.set place node) where
  workingDirectory := workingDirectory_set tree place node
  directories p hp := by
    have hne : p ≠ place := fun he => hplain (he ▸ hp)
    rw [node?_set hparent hplain, if_neg hne, hp]
  files p hp content permissions := by
    rw [node?_set hparent hplain, if_neg hp]

/-- A directory where nothing was touches no file. -/
theorem spares_set_directory {place : Place} (hparent : tree.node? place.dropLast = some .directory)
    (hfree : tree.node? place = none) :
    tree.Spares (fun _ => False) (tree.set place .directory) := by
  have hplain : tree.node? place ≠ some .directory := by simp [hfree]
  have hset := spares_set hparent hplain .directory
  refine ⟨hset.workingDirectory, hset.directories, fun p _ content permissions => ?_⟩
  by_cases hp : p = place
  · rw [node?_set hparent hplain, if_pos hp, hp, hfree]
    simp
  · exact hset.files p hp content permissions

/-- Making the directories down to a place touches no file. -/
theorem spares_makeAll {top : Place} {names : List String} {made : FileTree}
    (htop : tree.node? top = some .directory)
    (hmade : tree.makeAll ((placesTo names).map (top ++ ·)) = some made) :
    tree.Spares (fun _ => False) made ∧ made.node? (top ++ names) = some .directory := by
  induction names generalizing tree top with
  | nil =>
    obtain rfl := Option.some.inj hmade
    exact ⟨.refl tree _, by rwa [List.append_nil]⟩
  | cons name rest ih =>
    -- the directory at `name` is the new top
    have hplaces : (placesTo (name :: rest)).map (top ++ ·) =
        (top ++ [name]) :: (placesTo rest).map (top ++ [name] ++ ·) := by
      simp [placesTo, Function.comp_def]
    have hend : top ++ name :: rest = top ++ [name] ++ rest := by simp
    have hparent : tree.node? (top ++ [name]).dropLast = some .directory := by
      rwa [List.dropLast_concat]
    rw [hplaces, makeAll] at hmade
    rw [hend]
    split at hmade
    · rename_i hnode
      exact ih hnode hmade
    · cases hmade
    · rename_i hnode
      have hset := spares_set_directory hparent hnode
      have hdirectory : (tree.set (top ++ [name]) .directory).node? (top ++ [name]) =
          some .directory := by
        rw [node?_set hparent (by simp [hnode]), if_pos rfl]
      obtain ⟨hrest, hlast⟩ := ih hdirectory hmade
      exact ⟨hset.trans hrest, hlast⟩

theorem spares_write (tree : FileTree) (path : String) (content : Bytes)
    (permissions : Option Permissions) :
    tree.Spares (· = tree.placeOf path) (tree.write path content permissions) := by
  unfold write
  dsimp only
  generalize tree.placeOf path = place
  cases hmade : tree.makeAll (placesTo place.dropLast) with
  | none => exact .refl tree _
  | some made =>
    have hplaces : (placesTo place.dropLast).map ([] ++ ·) = placesTo place.dropLast := by simp
    obtain ⟨hspares, hparent⟩ := spares_makeAll (node?_nil tree) (hplaces ▸ hmade)
    rw [List.nil_append] at hparent
    have hset (hplain : made.node? place ≠ some .directory) (node : FileNode) :
        tree.Spares (· = place) (made.set place node) :=
      (hspares.mono fun _ hfalse => hfalse.elim).trans (spares_set hparent hplain node)
    dsimp only
    split
    · exact .refl tree _
    · rename_i hnode
      exact hset (by simp [hnode]) _
    · rename_i hnode
      exact hset (by simp [hnode]) _

theorem spares_remove {path : String}
    (hplain : tree.node? (tree.placeOf path) ≠ some .directory) :
    tree.Spares (· = tree.placeOf path) (tree.remove path) := by
  -- nothing stands below a file, so the file alone goes
  have hgone (p : Place) (hp : tree.placeOf path <+: p) :
      p = tree.placeOf path ∨ tree.node? p = none := by
    obtain ⟨below, rfl⟩ := hp
    by_cases hbelow : below = []
    · exact .inl (by rw [hbelow, List.append_nil])
    · exact .inr (tree.rooted.at?_below hplain hbelow)
  refine ⟨rfl, fun p hp => ?_, fun p hp content permissions => ?_⟩
  · rw [node?_remove, if_neg, hp]
    rintro ⟨-, habove⟩
    rcases hgone p habove with rfl | hnone
    · exact hplain hp
    · rw [hnone] at hp
      cases hp
  · rw [node?_remove]
    split
    · rename_i hremoved
      rcases hgone p hremoved.2 with rfl | hnone
      · exact absurd rfl hp
      · simp [hnone]
    · rfl

/-! ## Edits -/

/-- Writes a file. Where something is in the way of the path nothing is written. -/
def writeFile (tree : FileTree) (path : String) (content : Bytes)
    (permissions : Option Permissions) : FileTree :=
  match tree.lookup path with
  | .ok _ | .error .notFound => tree.write path content permissions
  | .error _ => tree

/-- Removes a file. Where there is no file nothing is removed. -/
def removeFile (tree : FileTree) (path : String) : FileTree :=
  if tree.isFile path then tree.remove path else tree

inductive Edit where
  | write (path : String) (content : Bytes) (permissions : Option Permissions)
  | remove (path : String)

def Edit.path : Edit → String
  | write path _ _ => path
  | remove path => path

def edit (tree : FileTree) : Edit → FileTree
  | .write path content permissions => tree.writeFile path content permissions
  | .remove path => tree.removeFile path

theorem spares_edit (tree : FileTree) (e : Edit) :
    tree.Spares (· = tree.placeOf e.path) (tree.edit e) := by
  cases e with
  | write path content permissions =>
    show tree.Spares _ (tree.writeFile path content permissions)
    unfold writeFile
    split
    · exact spares_write tree path content permissions
    · exact spares_write tree path content permissions
    · exact .refl tree _
  | remove path =>
    show tree.Spares _ (tree.removeFile path)
    unfold removeFile
    split
    · rename_i hfile
      obtain ⟨place, content, permissions, hlookup⟩ := isFile_iff.1 hfile
      obtain ⟨hplace, hnode⟩ := walk_eq_ok (lookup_eq_ok_iff.1 hlookup).2
      rw [← placeOf_eq] at hplace
      have hplain : tree.node? (tree.placeOf path) ≠ some .directory := by
        rw [← hplace, hnode]
        simp
      exact spares_remove hplain
    · exact .refl tree _

/-- A run of edits touches no files but theirs. -/
theorem spares_edits {edits : List Edit}
    (hedits : ∀ e ∈ edits, touched (tree.placeOf e.path)) :
    tree.Spares touched (edits.foldl edit tree) := by
  induction edits generalizing tree with
  | nil => exact .refl tree touched
  | cons e rest ih =>
    -- an edit does not change to which place a path leads
    obtain ⟨he, hrest⟩ := List.forall_mem_cons.1 hedits
    have hstep : tree.Spares touched (tree.edit e) :=
      (spares_edit tree e).mono fun place hplace => hplace ▸ he
    exact hstep.trans (ih fun other hother => hstep.placeOf other.path ▸ hrest other hother)

/-- Where a path is refused, and not because nothing is there, an edit does nothing. -/
theorem edit_of_refused {e : Edit} {cause : SystemError} (hcause : cause ≠ .notFound)
    (h : tree.lookup e.path = .error cause) : tree.edit e = tree := by
  cases e with
  | write path content permissions =>
    show tree.writeFile path content permissions = tree
    have hlookup : tree.lookup path = .error cause := h
    unfold writeFile
    rw [hlookup]
    split
    · rename_i habsent
      cases habsent
    · rename_i habsent
      exact absurd (Except.error.inj habsent) hcause
    · rfl
  | remove path =>
    show tree.removeFile path = tree
    have hlookup : tree.lookup path = .error cause := h
    unfold removeFile isFile
    rw [hlookup]
    rfl

theorem edits_of_refused {edits : List Edit}
    (h : ∀ e ∈ edits, ∃ cause ≠ .notFound, tree.lookup e.path = .error cause) :
    edits.foldl edit tree = tree := by
  induction edits with
  | nil => rfl
  | cons e rest ih =>
    obtain ⟨⟨cause, hcause, hlookup⟩, hrest⟩ := List.forall_mem_cons.1 h
    rw [List.foldl_cons, edit_of_refused hcause hlookup, ih hrest]

end EnvInject.FileTree
