import EnvInject.File.Path

/-!
# Extensions of file names

A file name is cut at its last dot, so what follows that dot is read back whatever dots stand before
it. The exceptions are a name whose only dot comes first, and a stem that is itself a dot.

* `splitExtension_append` : a name that was put together is cut where it was;
* `extension?_eq`, `withExtension_eq` : the extension of a path, and the path with another one.
-/

namespace EnvInject.Path

variable {path front stem extension : String}

theorem splitExtension_append {stem extension : List Char} (hstem : stem ≠ [])
    (hdot : '.' ∉ extension) : splitExtension (stem ++ '.' :: extension) = (stem, some extension) := by
  have hreverse : (stem ++ '.' :: extension).reverse = extension.reverse ++ '.' :: stem.reverse := by
    simp
  have hother : ∀ c ∈ extension.reverse, (c != '.') = true := by
    intro c hc
    rw [bne_iff_ne]
    rintro rfl
    exact hdot (List.mem_reverse.1 hc)
  have hbefore : (stem.reverse).isEmpty = false := by simpa using hstem
  unfold splitExtension
  rw [hreverse, List.takeWhile_append_of_pos hother, List.dropWhile_append_of_pos hother,
    List.takeWhile_cons_of_neg (by decide), List.dropWhile_cons_of_neg (by decide)]
  simp [hbefore]

theorem splitExtension_toList (hstem : stem ≠ "") (hdot : '.' ∉ extension.toList) :
    splitExtension (stem ++ "." ++ extension).toList = (stem.toList, some extension.toList) := by
  have hlist : (stem ++ "." ++ extension).toList = stem.toList ++ '.' :: extension.toList := by simp
  rw [hlist, splitExtension_append (fun h => hstem (String.toList_eq_nil_iff.1 h)) hdot]

/-- The extension is what follows the last dot of the file name. -/
theorem extension?_eq (hname : fileName? path = some (stem ++ "." ++ extension)) (hstem : stem ≠ "")
    (hdot : '.' ∉ extension.toList) : extension? path = some extension := by
  rw [extension?, hname, Option.bind_some, splitExtension_toList hstem hdot, Option.map_some,
    String.ofList_toList]

/-- Another extension takes the place of what follows the last dot, and the rest stays. -/
theorem withExtension_eq (hname : fileName? (front ++ (stem ++ "." ++ extension)) =
      some (stem ++ "." ++ extension)) (hstem : stem ≠ "") (hhere : stem ≠ ".")
    (hdot : '.' ∉ extension.toList) (other : String) :
    withExtension (front ++ (stem ++ "." ++ extension)) other = front ++ (stem ++ "." ++ other) := by
  have hdirectory : (front ++ (stem ++ "." ++ extension)).toList.take
      ((front ++ (stem ++ "." ++ extension)).toList.length -
        (stem ++ "." ++ extension).toList.length) = front.toList := by
    rw [String.toList_append, List.length_append, Nat.add_sub_cancel, List.take_left']
    rfl
  have hstay : (stem.toList == ['.']) = false := by
    rw [beq_eq_false_iff_ne]
    exact fun h => hhere (String.toList_inj.1 h)
  unfold withExtension
  rw [hname]
  dsimp only
  rw [hdirectory, splitExtension_toList hstem hdot, hstay, Bool.and_false,
    if_neg Bool.false_ne_true]
  apply String.toList_inj.1
  simp

end EnvInject.Path
