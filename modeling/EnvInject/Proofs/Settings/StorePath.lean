import EnvInject.Proofs.File.Joining
import EnvInject.Settings
import Mathlib

/-!
# Where the directory of the store lies

The directory of the store is an absolute path. What is written for it is one, or else a path below
the home directory or below the working directory. It takes the place of neither: a path is joined as
it is only where it does not start with a slash, and behind a `~` the slashes are taken off first.

* `IsSlash`, `dropSlashes`, `exists_slashes` : a text is slashes, and then what does not start with one;
* `storePath_of_absolute`, `storePath_of_tilde`, `storePath_of_relative` : the three cases;
* `KeepsBase`, `keepsBase_join` : a path that consists of a base and what is below it;
* `store_path_keeps_base` : the directory of the store in all three cases.
-/

namespace EnvInject.Settings

variable {s : Settings} {home workingDirectory : String}

/-! ## Three cases -/

theorem isAbsolute_iff {path : String} :
    Path.isAbsolute path = true ↔ path.toList.head? = some '/' := by
  rw [Path.isAbsolute, beq_iff_eq]

theorem isAbsolute_eq_false_iff {path : String} :
    Path.isAbsolute path = false ↔ path.toList.head? ≠ some '/' := by
  rw [Ne, ← isAbsolute_iff, Bool.not_eq_true]

def IsSlash (c : Char) : Prop := c = '/' ∨ c = '\\'

/-- A text from its first character on that is no slash. -/
def dropSlashes (cs : List Char) : String :=
  String.ofList (cs.dropWhile fun c => c == '/' || c == '\\')

theorem exists_slashes (cs : List Char) :
    ∃ slashes, (∀ c ∈ slashes, IsSlash c) ∧ cs = slashes ++ (dropSlashes cs).toList ∧
      ∀ c ∈ (dropSlashes cs).toList.head?, ¬ IsSlash c := by
  rw [dropSlashes, String.toList_ofList]
  refine ⟨cs.takeWhile fun c => c == '/' || c == '\\', fun c hc => ?_,
    List.takeWhile_append_dropWhile.symm, fun c hc => ?_⟩
  · simpa [IsSlash] using List.mem_takeWhile_imp hc
  · have hfirst := List.head?_dropWhile_not (fun c => c == '/' || c == '\\') cs
    rw [Option.mem_def.1 hc] at hfirst
    simpa [IsSlash] using hfirst

theorem head?_dropSlashes (cs : List Char) : (dropSlashes cs).toList.head? ≠ some '/' := by
  obtain ⟨-, -, -, hfirst⟩ := exists_slashes cs
  exact fun hslash => hfirst '/' hslash (.inl rfl)

theorem storePath_of_absolute (h : s.path.toList.head? = some '/') :
    s.storePath home workingDirectory = s.path := by
  rw [storePath, if_pos (isAbsolute_iff.2 h)]

theorem storePath_of_tilde {rest : List Char} (h : s.path.toList = '~' :: rest) :
    s.storePath home workingDirectory = Path.join home (dropSlashes rest) := by
  have hrelative : Path.isAbsolute s.path = false := isAbsolute_eq_false_iff.2 (by simp [h])
  rw [storePath, if_neg (by simp [hrelative]), h]
  rfl

theorem storePath_of_relative (hslash : s.path.toList.head? ≠ some '/')
    (htilde : s.path.toList.head? ≠ some '~') :
    s.storePath home workingDirectory = Path.join workingDirectory s.path := by
  have hrelative : Path.isAbsolute s.path = false := isAbsolute_eq_false_iff.2 hslash
  rw [storePath, if_neg (by simp [hrelative])]
  split
  · rename_i rest hlist
    exact absurd (by rw [hlist, List.head?_cons]) htilde
  · rfl

/-! ## What is kept -/

/-- The path is made up of a base, all of it, and of what is below: the parts between its slashes are
those of the one and then those of the other. So are its components, but for a `.` that what is below
starts with, which is a component of no absolute path. -/
structure KeepsBase (path base below : String) : Prop where
  parts : Path.parts path = Path.parts base ++ Path.parts below
  components : Path.components path =
    Path.components base ++ (Path.components below).filter (· ≠ .here)

section Base
variable {base below : String} (hbase : Path.isAbsolute base = true)
  (hbelow : below.toList.head? ≠ some '/')
include hbase hbelow

theorem isAbsolute_join : Path.isAbsolute (Path.join base below) = true :=
  (Path.isAbsolute_join base (isAbsolute_eq_false_iff.2 hbelow)).trans hbase

theorem keepsBase_join : KeepsBase (Path.join base below) base below where
  parts := Path.parts_join base (isAbsolute_eq_false_iff.2 hbelow)
  components := Path.components_join_relative hbase (isAbsolute_eq_false_iff.2 hbelow)

end Base

/-- **The directory of the store is absolute and keeps what it is below.** -/
theorem store_path_keeps_base (s : Settings) {home workingDirectory : String}
    (hhome : Path.isAbsolute home = true) (hworking : Path.isAbsolute workingDirectory = true) :
    let path := s.storePath home workingDirectory
    Path.isAbsolute path = true ∧
    (s.path.toList.head? = some '/' → path = s.path) ∧
    (∀ rest, s.path.toList = '~' :: rest → ∃ slashes below, rest = slashes ++ below.toList ∧
      (∀ c ∈ slashes, IsSlash c) ∧ (∀ c ∈ below.toList.head?, ¬ IsSlash c) ∧
      KeepsBase path home below) ∧
    (s.path.toList.head? ≠ some '/' → s.path.toList.head? ≠ some '~' →
      KeepsBase path workingDirectory s.path) := by
  intro path
  refine ⟨?_, storePath_of_absolute, fun rest hrest => ?_, fun hslash htilde => ?_⟩
  · by_cases hslash : s.path.toList.head? = some '/'
    · have hpath : path = s.path := storePath_of_absolute hslash
      rw [hpath]
      exact isAbsolute_iff.2 hslash
    · by_cases htilde : s.path.toList.head? = some '~'
      · obtain ⟨rest, hrest⟩ := List.head?_eq_some_iff.1 htilde
        have hpath : path = _ := storePath_of_tilde hrest
        rw [hpath]
        exact isAbsolute_join hhome (head?_dropSlashes rest)
      · have hpath : path = _ := storePath_of_relative hslash htilde
        rw [hpath]
        exact isAbsolute_join hworking hslash
  · have hpath : path = Path.join home (dropSlashes rest) := storePath_of_tilde hrest
    obtain ⟨slashes, hslashes, hsplit, hfirst⟩ := exists_slashes rest
    refine ⟨slashes, dropSlashes rest, hsplit, hslashes, hfirst, ?_⟩
    rw [hpath]
    exact keepsBase_join hhome (head?_dropSlashes rest)
  · have hpath : path = Path.join workingDirectory s.path := storePath_of_relative hslash htilde
    rw [hpath]
    exact keepsBase_join hworking hslash

/-- Slashes of both kinds behind the `~`, which hide an absolute path, and a working directory that
ends in a slash, under a path that goes up. -/
theorem store_path_keeps_base_hidden_root :
    let path (written : String) := ({ path := written } : Settings).storePath "/home/user" "/work/"
    (∃ slashes below, "/\\//etc/./store".toList = slashes ++ below.toList ∧
        KeepsBase (path "~/\\//etc/./store") "/home/user" below) ∧
      path "~/\\//etc/./store" = "/home/user/etc/./store" ∧
      KeepsBase (path "./../s") "/work/" "./../s" ∧ path "./../s" = "/work/./../s" ∧
      Path.isAbsolute (path "") = true ∧ path "/s" = "/s" := by
  intro path
  have hkeeps (written : String) :=
    store_path_keeps_base { path := written } (rfl : Path.isAbsolute "/home/user" = true)
      (rfl : Path.isAbsolute "/work/" = true)
  obtain ⟨slashes, below, hsplit, -, -, hbelow⟩ := (hkeeps "~/\\//etc/./store").2.2.1 _ rfl
  exact ⟨⟨slashes, below, hsplit, hbelow⟩, by decide +kernel,
    (hkeeps "./../s").2.2.2 (by decide) (by decide), by decide +kernel, (hkeeps "").1,
    (hkeeps "/s").2.1 rfl⟩

end EnvInject.Settings
