import EnvInject.Proofs.Text.Splitting

/-!
# Lines of a text

A line ends with a line feed, before which one carriage return belongs to the end and not to the
line. The last line may do without an end, and then all of its carriage returns are its own. Cutting
at the line feeds gives the same lines, but for a carriage return at the end of each and an empty
part behind the last end.

* `lines` : the lines of a text;
* `AreLines`, `areLines_lines` : how the lines come from the parts between the line feeds;
* `filterMap_lines` : what ignores those two differences sees the lines.
-/

namespace EnvInject.Text

/-- The lines of a text, without their ends. -/
def lines : List Char → List (List Char)
  | [] => []
  | '\n' :: rest => [] :: lines rest
  | '\r' :: '\n' :: rest => [] :: lines rest
  | c :: rest =>
    match lines rest with
    | [] => [[c]]
    | line :: more => (c :: line) :: more

/-- The parts of a text between its line feeds, as lines. -/
inductive AreLines : List (List Char) → List (List Char) → Prop where
  /-- Nothing follows the last end. -/
  | nothing : AreLines [] [[]]
  | lastLine {line : List Char} : line ≠ [] → AreLines [line] [line]
  | lf {ls parts : List (List Char)} (line : List Char) : AreLines ls parts →
    AreLines (line :: ls) (line :: parts)
  | crlf {ls parts : List (List Char)} (line : List Char) : AreLines ls parts →
    AreLines (line :: ls) ((line ++ ['\r']) :: parts)

/-- A character that ends no line belongs to the first line and to the first part. -/
theorem areLines_cons {c : Char} (hc : c ≠ '\n') {rest line : List Char}
    {more : List (List Char)} (h : AreLines (line :: more) (splitAt '\n' rest)) :
    AreLines ((c :: line) :: more) (splitAt '\n' (c :: rest)) := by
  rw [splitAt, if_neg hc]
  generalize splitAt '\n' rest = parts at h
  cases h with
  | lastLine _ => exact .lastLine (List.cons_ne_nil _ _)
  | lf _ h => exact .lf _ h
  | crlf _ h => exact .crlf _ h

theorem areLines_lines (cs : List Char) : AreLines (lines cs) (splitAt '\n' cs) := by
  fun_induction lines cs with
  | case1 => exact .nothing
  | case2 rest ih => exact .lf [] ih
  | case3 rest ih => exact .crlf [] ih
  -- `c` is the only character of a last line
  | case4 c rest hlf _ hnone ih =>
    rw [hnone] at ih
    rw [splitAt, if_neg hlf]
    generalize splitAt '\n' rest = parts at ih
    cases ih
    exact .lastLine (List.cons_ne_nil _ _)
  | case5 c rest hlf _ line more hsome ih =>
    rw [hsome] at ih
    exact areLines_cons hlf ih

example : lines ['a', '\r', '\n', '\n', '\r', 'b', '\r'] = [['a'], [], ['\r', 'b', '\r']] := by
  decide

theorem filterMap_of_areLines {α : Type} {f : List Char → Option α} (hnil : f [] = none)
    (hreturn : ∀ line, f (line ++ ['\r']) = f line) {ls parts : List (List Char)}
    (h : AreLines ls parts) : parts.filterMap f = ls.filterMap f := by
  induction h with
  | nothing => exact List.filterMap_cons_none hnil
  | lastLine _ => rfl
  | lf line _ ih => rw [List.filterMap_cons, List.filterMap_cons, ih]
  | crlf line _ ih => rw [List.filterMap_cons, List.filterMap_cons, hreturn, ih]

/-- What sees neither an empty part nor a carriage return at the end sees the lines. -/
theorem filterMap_lines {α : Type} {f : List Char → Option α} (hnil : f [] = none)
    (hreturn : ∀ line, f (line ++ ['\r']) = f line) (cs : List Char) :
    (splitAt '\n' cs).filterMap f = (lines cs).filterMap f :=
  filterMap_of_areLines hnil hreturn (areLines_lines cs)

end EnvInject.Text
