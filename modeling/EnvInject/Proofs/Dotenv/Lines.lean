import EnvInject.Dotenv
import EnvInject.Proofs.Text.Lines
import EnvInject.Proofs.Text.Trimming

/-!
# ENV documents line by line

Every line of a document gives its own entry, or none, whatever stands on the other lines: no quote,
no `export` and no missing end of a line reaches into the next. So a document that is put together
from two texts has the entries of the one and then those of the other.

* `entry?_append_return` : a carriage return at the end of a line says nothing;
* `entries_eq_lines`, `entries_of_line` : the entries are those of the lines;
* `entries_line_by_line` : documents in pieces.
-/

namespace EnvInject.Dotenv

theorem entry?_nil : entry? [] = none := rfl

theorem entry?_append_return (line : List Char) : entry? (line ++ ['\r']) = entry? line := by
  have hblank : ∀ c ∈ ['\r'], Text.isBlank c = true := List.all_eq_true.1 rfl
  unfold entry?
  rw [Text.trim_append_blanks line hblank]

theorem entries_eq_lines (content : String) :
    entries content = (Text.lines content.toList).filterMap entry? :=
  Text.filterMap_lines entry?_nil entry?_append_return content.toList

theorem entries_of_line {line : String} (h : '\n' ∉ line.toList) :
    entries line = (Option.toList <| entry? line.toList) := by
  rw [entries, Text.splitAt_of_not_mem h]
  cases hentry : entry? line.toList with
  | none => exact List.filterMap_cons_none hentry
  | some entry => exact List.filterMap_cons_some hentry

theorem entries_append_line (a b : String) : entries (a ++ "\n" ++ b) = entries a ++ entries b := by
  have hlist : (a ++ "\n" ++ b).toList = a.toList ++ '\n' :: b.toList := by simp
  rw [entries, hlist, Text.splitAt_append_cons, List.filterMap_append, entries, entries]

/-- **A line affects only itself.** -/
theorem entries_line_by_line :
    (∀ a b, entries (a ++ "\n" ++ b) = entries a ++ entries b) ∧
    (∀ content, entries content = (Text.lines content.toList).filterMap entry?) ∧
    ∀ a line b, '\n' ∉ line.toList →
      entries (a ++ "\n" ++ (line ++ "\n" ++ b)) =
        entries a ++ (Option.toList <| entry? line.toList) ++ entries b := by
  refine ⟨entries_append_line, entries_eq_lines, fun a line b hline => ?_⟩
  rw [entries_append_line, entries_append_line, entries_of_line hline, List.append_assoc]

/-- A quote that is not closed, a carriage return and a line without an entry stand between two
entries, and the last line has no end. -/
theorem entries_line_by_line_open_quote :
    entries "export A=\"one\r\nexport 'B\nC='two" = [("A", "\"one"), ("C", "'two")] := by
  have hfirst : entries "export A=\"one\r" = [("A", "\"one")] := by decide +kernel
  have hlast : entries "C='two" = [("C", "'two")] := by decide +kernel
  have hnone : entry? "export 'B".toList = none := by decide +kernel
  have hlines := entries_line_by_line.2.2 "export A=\"one\r" "export 'B" "C='two" (by decide)
  rw [hfirst, hlast, hnone] at hlines
  exact hlines

end EnvInject.Dotenv
