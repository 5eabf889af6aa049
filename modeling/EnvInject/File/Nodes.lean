import EnvInject.Pairs
import EnvInject.Text.Utf8

/-!
# Nodes of a file tree

Directories and files by the places where they stand. They are rooted: whatever stands below a place
makes the place a directory.

* `Nodes.at?` : what stands at a place;
* `Nodes.Rooted` : no file and no gap above anything that stands there;
* `Nodes.put`, `Nodes.cut` : puts something at a place, and takes away what is there and below
  (`at?_put`, `at?_cut`); both keep nodes rooted (`Rooted.put`, `Rooted.cut`).
-/

namespace EnvInject

/-- A place in a tree, as the names from the root. -/
abbrev Place := List String

def Place.path (place : Place) : String := "/" ++ "/".intercalate place

/-- What the owner of a file may do with it. -/
structure Permissions where
  readable : Bool := true
  executable : Bool := false
  deriving DecidableEq, Repr

def Permissions.ofMode (mode : Nat) : Permissions :=
  { readable := mode.testBit 8, executable := mode.testBit 6 }

/-- What stands at a place. There are no links, and every directory may be searched. -/
inductive FileNode where
  | directory
  | file (content : Bytes) (permissions : Permissions)
  deriving DecidableEq, Repr

abbrev Nodes := List (Place × FileNode)

namespace Nodes

variable {nodes : Nodes} {place : Place}

/-- What stands at a place. The root is always a directory. -/
def at? (nodes : Nodes) (place : Place) : Option FileNode :=
  if place.isEmpty then some .directory else nodes.lookup place

/-- Puts `node` at `place`, instead of what is there. -/
def put (nodes : Nodes) (place : Place) (node : FileNode) : Nodes :=
  (place, node) :: nodes.filter (·.1 != place)

/-- Takes away what stands at `place` and below it. -/
def cut (nodes : Nodes) (place : Place) : Nodes :=
  nodes.filter fun n => n.1.take place.length != place

@[simp] theorem at?_nil (nodes : Nodes) : nodes.at? [] = some .directory := rfl

theorem at?_of_ne_nil (h : place ≠ []) (nodes : Nodes) : nodes.at? place = nodes.lookup place := by
  unfold at?
  rw [if_neg (by simpa using h)]

theorem at?_put (h : place ≠ []) (nodes : Nodes) (node : FileNode) (p : Place) :
    (nodes.put place node).at? p = if p = place then some node else nodes.at? p := by
  by_cases hp : p = place
  · subst hp
    rw [at?_of_ne_nil h, if_pos rfl]
    simp [put]
  · rw [if_neg hp]
    by_cases hnil : p = []
    · rw [hnil, at?_nil, at?_nil]
    · rw [at?_of_ne_nil hnil, at?_of_ne_nil hnil]
      unfold put
      rw [List.lookup_cons, beq_false_of_ne hp, Pairs.lookup_filter (· != place)]
      simp [hp]

theorem at?_cut (nodes : Nodes) (place p : Place) :
    (nodes.cut place).at? p = if p ≠ [] ∧ place <+: p then none else nodes.at? p := by
  by_cases hnil : p = []
  · rw [hnil, at?_nil, at?_nil]
    simp
  · rw [at?_of_ne_nil hnil, at?_of_ne_nil hnil]
    unfold cut
    rw [Pairs.lookup_filter fun q : Place => q.take place.length != place]
    by_cases habove : place <+: p
    · have htake := List.prefix_iff_eq_take.1 habove
      simp [hnil, habove, ← htake]
    · have htake : p.take place.length ≠ place := fun h =>
        habove (List.prefix_iff_eq_take.2 h.symm)
      simp [habove, htake]

/-! ## Rooted nodes -/

/-- Whatever stands below a place makes it a directory. -/
def Rooted (nodes : Nodes) : Prop :=
  ∀ place below node, below ≠ [] → nodes.at? (place ++ below) = some node →
    nodes.at? place = some .directory

theorem rooted_nil : Rooted [] := by
  intro place below node hbelow hnode
  rw [at?_of_ne_nil (by simp [hbelow])] at hnode
  cases hnode

/-- Nothing stands below what is no directory. -/
theorem Rooted.at?_below (h : nodes.Rooted) {below : Place}
    (hplace : nodes.at? place ≠ some .directory) (hbelow : below ≠ []) :
    nodes.at? (place ++ below) = none := by
  cases hnode : nodes.at? (place ++ below) with
  | none => rfl
  | some node => exact absurd (h place below node hbelow hnode) hplace

/-- Something may be put into a directory, in place of what is no directory. -/
theorem Rooted.put (h : nodes.Rooted) (hparent : nodes.at? place.dropLast = some .directory)
    (hplain : nodes.at? place ≠ some .directory) (node : FileNode) :
    (nodes.put place node).Rooted := by
  have hnil : place ≠ [] := fun hnil => hplain (hnil ▸ at?_nil nodes)
  intro p below other hbelow hother
  rw [at?_put hnil] at hother ⊢
  by_cases hp : p = place
  · subst hp
    rw [if_neg (by simpa using hbelow), h.at?_below hplain hbelow] at hother
    cases hother
  · rw [if_neg hp]
    split at hother
    · rename_i hplace
      -- `p` is the directory itself or stands above it
      have hfront : place.dropLast = p ++ below.dropLast := by
        rw [← hplace, List.dropLast_append_of_ne_nil hbelow]
      rw [hfront] at hparent
      by_cases hempty : below.dropLast = []
      · rwa [hempty, List.append_nil] at hparent
      · exact h p _ .directory hempty hparent
    · exact h p below other hbelow hother

theorem Rooted.cut (h : nodes.Rooted) (place : Place) : (nodes.cut place).Rooted := by
  intro p below node hbelow hnode
  rw [at?_cut] at hnode ⊢
  split at hnode
  · cases hnode
  · rename_i hkept
    rw [if_neg, h p below node hbelow hnode]
    rintro ⟨hp, habove⟩
    exact hkept ⟨by simp [hp], habove.trans (List.prefix_append p below)⟩

end Nodes

end EnvInject
