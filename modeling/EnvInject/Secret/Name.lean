import EnvInject.Text.Blank

/-!
# Variable names of secret paths

A secret path such as `db/password` names the variable `DB_PASSWORD`.

* `variableName` : the name that a path stands for (`notMem_variableName`).
-/

namespace EnvInject.Secret

/-- One character of a path as it stands in a name: separators and blanks become underscores, ASCII
letters become capitals. -/
def nameChar (c : Char) : Char :=
  if c == '/' || c == '-' || c == '.' then '_'
  else if Text.isBlank c then '_'
  else c.toUpper

/-- The variable name of a secret path; leading slashes are dropped. -/
def variableName (path : String) : String :=
  String.ofList ((path.toList.dropWhile (· == '/')).map nameChar)

theorem nameChar_eq {c : Char} (h : nameChar c = '=') : c = '=' := by
  unfold nameChar at h
  split at h
  · cases h
  · split at h
    · cases h
    · unfold Char.toUpper at h
      split at h
      · rename_i hletter
        have hval := congrArg Char.val h
        rw [← UInt32.eq_sub_iff_add_eq] at hval
        rw [hval] at hletter
        exact absurd hletter (by decide)
      · exact h

/-- A name has a `=` in it only if the path has one. -/
theorem notMem_variableName {path : String} (h : '=' ∉ path.toList) :
    '=' ∉ (variableName path).toList := by
  rw [variableName, String.toList_ofList]
  intro hmem
  obtain ⟨c, hc, hname⟩ := List.mem_map.1 hmem
  obtain rfl := nameChar_eq hname
  exact h ((List.dropWhile_sublist _).subset hc)

end EnvInject.Secret
