import EnvInject.File.Path
import EnvInject.Proofs.Text.Splitting

/-!
# Joining paths

Joining replaces the base by an absolute path. With a relative one the base stays: what stands
between its slashes comes first, and then what stands between those of the other. Where a relative
path begins with `.`, that is a component of the path alone, and says nothing once it is joined.

`.`, `..` and the empty part say nothing or lead elsewhere. A part that is none of these, and has no
slash in it, is a name: joining with a name adds one component and leaves the ones that are there.

* `join_cases`, `split_join` : the text of a joined path, and its parts, up to an empty one where the
  base ends in a slash;
* `steps_join`, `parts_join` : what its parts say, and what they are;
* `join_append`, `foldl_join` : joining with a longer text, and joining with one name after another;
* `Path.IsName` : a part that leads one step down;
* `components_join`, `components_foldl_join` : the components of a path joined with names.
-/

namespace EnvInject.Path

variable {path part : String}

/-! ## Relative paths -/

theorem join_cases (base : String) (h : isAbsolute part = false) :
    (base = "" ∧ join base part = part) ∨
      (∃ front, base.toList = front ++ ['/'] ∧ join base part = base ++ part) ∨
      (base ≠ "" ∧ join base part = base ++ "/" ++ part) := by
  unfold join
  rw [if_neg (by simp [h])]
  by_cases hempty : base = ""
  · left
    subst hempty
    exact ⟨rfl, by simp⟩
  · right
    by_cases hslash : base.toList.getLast? = some '/'
    · left
      obtain ⟨front, hfront⟩ := List.getLast?_eq_some_iff.1 hslash
      exact ⟨front, hfront, by simp [hslash]⟩
    · right
      exact ⟨hempty, by simp [hempty, hslash]⟩

/-- Joining adds the parts of a relative path, in place of an empty one where the base ends in a
slash. -/
theorem split_join (base : String) (h : isAbsolute part = false) :
    ∃ kept, (Text.split '/' base = kept ∨ Text.split '/' base = kept ++ [""]) ∧
      Text.split '/' (join base part) = kept ++ Text.split '/' part := by
  rcases join_cases base h with ⟨rfl, hjoin⟩ | ⟨front, hfront, hjoin⟩ | ⟨-, hjoin⟩
  · exact ⟨[], .inr rfl, by rw [hjoin, List.nil_append]⟩
  · refine ⟨Text.split '/' (String.ofList front), .inr ?_, ?_⟩
    · have hbase : base.toList = (String.ofList front).toList ++ '/' :: "".toList := by
        simp [hfront]
      rw [Text.split_append_cons hbase]
      rfl
    · have hlist : (base ++ part).toList = (String.ofList front).toList ++ '/' :: part.toList := by
        simp [hfront]
      rw [hjoin, Text.split_append_cons hlist]
  · have hlist : (base ++ "/" ++ part).toList = base.toList ++ '/' :: part.toList := by simp
    exact ⟨Text.split '/' base, .inl rfl, by rw [hjoin, Text.split_append_cons hlist]⟩

theorem isAbsolute_join (base : String) (h : isAbsolute part = false) :
    isAbsolute (join base part) = isAbsolute base := by
  rcases join_cases base h with ⟨rfl, hjoin⟩ | ⟨front, hfront, hjoin⟩ | ⟨hne, hjoin⟩
  · rw [hjoin, h]
    rfl
  · unfold isAbsolute
    rw [hjoin, String.toList_append, hfront]
    cases front <;> rfl
  · unfold isAbsolute
    rw [hjoin, String.toList_append, String.toList_append]
    cases hbase : base.toList with
    | nil => exact absurd (String.toList_eq_nil_iff.1 hbase) hne
    | cons c rest => rfl

/-- What is read off the parts one by one, and not off an empty one, is read off both paths. -/
theorem filterMap_split_join {α : Type} {f : String → Option α} (hf : f "" = none) (base : String)
    (h : isAbsolute part = false) :
    (Text.split '/' (join base part)).filterMap f =
      (Text.split '/' base).filterMap f ++ (Text.split '/' part).filterMap f := by
  obtain ⟨kept, hbase, hjoin⟩ := split_join base h
  have hempty : [""].filterMap f = [] := List.filterMap_cons_none hf
  rw [hjoin, List.filterMap_append]
  rcases hbase with hbase | hbase
  · rw [hbase]
  · rw [hbase, List.filterMap_append, hempty, List.append_nil]

/-- The steps of a path: its names and `..`. -/
def steps (path : String) : List Component := (Text.split '/' path).filterMap component?

/-- What stands between the slashes of a path, `.` and `..` included. -/
def parts (path : String) : List String := (Text.split '/' path).filter (· ≠ "")

theorem steps_join (base : String) (h : isAbsolute part = false) :
    steps (join base part) = steps base ++ steps part :=
  filterMap_split_join rfl base h

theorem parts_join (base : String) (h : isAbsolute part = false) :
    parts (join base part) = parts base ++ parts part := by
  unfold parts
  rw [← List.filterMap_eq_filter]
  exact filterMap_split_join rfl base h

theorem components_of_isAbsolute (h : isAbsolute path = true) :
    components path = .root :: steps path := by
  unfold components
  dsimp only
  rw [if_pos h]
  rfl

theorem ne_here_of_mem_steps {component : Component} (h : component ∈ steps path) :
    component ≠ .here := by
  rintro rfl
  obtain ⟨part, -, hpart⟩ := List.mem_filterMap.1 h
  unfold component? at hpart
  split at hpart
  · cases hpart
  · split at hpart <;> cases hpart

/-- The steps of a relative path are its components, but for a `.` at the start. -/
theorem steps_eq_filter (h : isAbsolute path = false) :
    steps path = (components path).filter (· ≠ .here) := by
  have hsteps : (steps path).filter (· ≠ .here) = steps path :=
    List.filter_eq_self.2 fun component hmem => by simpa using ne_here_of_mem_steps hmem
  unfold components
  dsimp only
  rw [if_neg (by simp [h]), List.filter_append]
  change _ = _ ++ (steps path).filter _
  rw [hsteps]
  split <;> rfl

/-- Below an absolute base a relative path adds its components, but for a `.` at the start. -/
theorem components_join_relative {base : String} (hbase : isAbsolute base = true)
    (h : isAbsolute part = false) :
    components (join base part) = components base ++ (components part).filter (· ≠ .here) := by
  rw [components_of_isAbsolute ((isAbsolute_join base h).trans hbase), steps_join base h,
    components_of_isAbsolute hbase, steps_eq_filter h, List.cons_append]

/-! ## Longer texts -/

theorem isAbsolute_append (hpart : part ≠ "") (tail : String) :
    isAbsolute (part ++ tail) = isAbsolute part := by
  unfold isAbsolute
  rw [String.toList_append]
  cases hlist : part.toList with
  | nil => exact absurd (String.toList_eq_nil_iff.1 hlist) hpart
  | cons c rest => rfl

theorem join_append (base tail : String) (hpart : part ≠ "") :
    join base (part ++ tail) = join base part ++ tail := by
  unfold join
  rw [isAbsolute_append hpart]
  split
  · rfl
  · split <;> simp only [String.append_assoc]

/-! ## Names -/

/-- A part of a path that leads one step down. -/
structure IsName (part : String) : Prop where
  ne_empty : part ≠ ""
  ne_here : part ≠ "."
  ne_up : part ≠ ".."
  notMem_slash : '/' ∉ part.toList

theorem IsName.split (h : IsName part) : Text.split '/' part = [part] :=
  Text.split_of_notMem h.notMem_slash

theorem IsName.isAbsolute (h : IsName part) : isAbsolute part = false := by
  unfold Path.isAbsolute
  cases hpart : part.toList with
  | nil => rfl
  | cons c rest =>
    have hc : c ≠ '/' := fun hc => h.notMem_slash (by simp [hpart, hc])
    simpa using hc

theorem exists_join_eq_append (base : String) (h : isAbsolute part = false) :
    ∃ front, join base part = front ++ part := by
  rcases join_cases base h with ⟨-, hjoin⟩ | ⟨-, -, hjoin⟩ | ⟨-, hjoin⟩
  · exact ⟨"", by rw [hjoin, String.empty_append]⟩
  · exact ⟨base, hjoin⟩
  · exact ⟨base ++ "/", hjoin⟩

/-- Behind a name there is a slash before what is joined next. -/
theorem join_join_name {name : String} (base : String) (hname : IsName name)
    (h : isAbsolute part = false) : join (join base name) part = join base (name ++ "/" ++ part) := by
  obtain ⟨front, hfront⟩ := exists_join_eq_append base hname.isAbsolute
  have hne : name.toList ≠ [] := fun hnil => hname.ne_empty (String.toList_eq_nil_iff.1 hnil)
  have hsome : name.toList.getLast? = some (name.toList.getLast hne) := List.getLast?_eq_some_getLast hne
  have hlast : (join base name).toList.getLast? = some (name.toList.getLast hne) := by
    rw [hfront, String.toList_append, List.getLast?_append, hsome, Option.some_or]
  rw [String.append_assoc, join_append base _ hname.ne_empty]
  rcases join_cases (join base name) h with ⟨hempty, -⟩ | ⟨before, hslash, -⟩ | ⟨-, hjoin⟩
  · rw [hempty] at hlast
    cases hlast
  · rw [hslash, List.getLast?_concat] at hlast
    exact absurd (Option.some.inj hlast ▸ List.getLast_mem hne) hname.notMem_slash
  · rw [hjoin, String.append_assoc]

theorem isAbsolute_intercalate {name : String} {rest : List String} (h : IsName name) :
    isAbsolute ("/".intercalate (name :: rest)) = false := by
  cases rest with
  | nil => simpa using h.isAbsolute
  | cons next rest =>
    rw [String.intercalate_cons_cons, String.append_assoc, isAbsolute_append h.ne_empty, h.isAbsolute]

theorem foldl_join {names : List String} (h : ∀ name ∈ names, IsName name) (hne : names ≠ [])
    (base : String) : names.foldl join base = join base ("/".intercalate names) := by
  induction names generalizing base with
  | nil => exact absurd rfl hne
  | cons name rest ih =>
    obtain ⟨hname, hrest⟩ := List.forall_mem_cons.1 h
    cases rest with
    | nil => simp
    | cons next rest =>
      have hnext : IsName next := hrest next List.mem_cons_self
      rw [List.foldl_cons, ih hrest (List.cons_ne_nil _ _),
        join_join_name base hname (isAbsolute_intercalate hnext), String.intercalate_cons_cons]

theorem component?_name (h : IsName part) : component? part = some (.name part) := by
  simp [component?, h.ne_empty, h.ne_here, h.ne_up]

theorem components_join (base : String) (h : IsName part) :
    components (join base part) = components base ++ [.name part] := by
  have hsteps : steps (join base part) = steps base ++ [.name part] := by
    have hpart : steps part = [.name part] := by
      rw [steps, h.split]
      exact List.filterMap_cons_some (component?_name h)
    rw [steps_join base h.isAbsolute, hpart]
  have hhead : (Text.split '/' (join base part)).head? = some "." ↔
      (Text.split '/' base).head? = some "." := by
    obtain ⟨kept, hbase, hjoin⟩ := split_join base h.isAbsolute
    rw [hjoin, h.split]
    cases kept with
    | nil =>
      rcases hbase with hbase | hbase
      · exact absurd hbase (Text.split_ne_nil '/' base)
      · simp [hbase, h.ne_here]
    | cons first rest => rcases hbase with hbase | hbase <;> simp [hbase]
  unfold steps at hsteps
  unfold components
  dsimp only
  simp only [isAbsolute_join base h.isAbsolute, hsteps, hhead, List.append_assoc]

theorem isAbsolute_foldl_join {names : List String} (h : ∀ name ∈ names, IsName name)
    (base : String) : isAbsolute (names.foldl join base) = isAbsolute base := by
  induction names generalizing base with
  | nil => rfl
  | cons name rest ih =>
    obtain ⟨hname, hrest⟩ := List.forall_mem_cons.1 h
    rw [List.foldl_cons, ih hrest, isAbsolute_join base hname.isAbsolute]

theorem components_foldl_join {names : List String} (h : ∀ name ∈ names, IsName name)
    (base : String) :
    components (names.foldl join base) = components base ++ names.map .name := by
  induction names generalizing base with
  | nil => simp
  | cons name rest ih =>
    obtain ⟨hname, hrest⟩ := List.forall_mem_cons.1 h
    rw [List.foldl_cons, ih hrest, components_join base hname, List.append_assoc, List.map_cons,
      List.singleton_append]

end EnvInject.Path
