import EnvInject.Text.Blank
import EnvInject.Text.Split

/-!
# ENV documents

One entry a line, `KEY=VALUE`, optionally after `export `. Blank lines, lines that start with `#`
and lines without a `=` are no entries. Blanks around key and value do not count, and one pair of
quotes around the value is taken off.

* `Dotenv.entry?` : the entry of a line;
* `Dotenv.entries` : the entries of a document, in order (`notMem_key`).
-/

namespace EnvInject.Dotenv

/-- Takes `start` off the front of a text that begins with it. -/
def dropStart (start cs : List Char) : List Char :=
  if start.isPrefixOf cs then cs.drop start.length else cs

/-- Takes one pair of equal quotes off the ends of a text. -/
def unquote (cs : List Char) : List Char :=
  if 2 ≤ cs.length && cs.head? == cs.getLast? && (cs.head? == some '"' || cs.head? == some '\'')
  then (cs.drop 1).dropLast
  else cs

/-- The entry of a line, if it has one. -/
def entry? (line : List Char) : Option (String × String) :=
  let line := Text.trim line
  if line.head? == some '#' then none
  else
    (Text.cutFirst? '=' (dropStart "export ".toList line)).map fun (key, value) =>
      (String.ofList (Text.trim key), String.ofList (unquote (Text.trim value)))

def entries (content : String) : List (String × String) :=
  (Text.splitAt '\n' content.toList).filterMap entry?

/-- A key ends before the first `=` of its line. -/
theorem notMem_key {content : String} {entry : String × String}
    (h : entry ∈ entries content) : '=' ∉ entry.1.toList := by
  obtain ⟨line, -, hentry⟩ := List.mem_filterMap.1 h
  unfold entry? at hentry
  dsimp only at hentry
  split at hentry
  · cases hentry
  · obtain ⟨⟨key, value⟩, hcut, rfl⟩ := Option.map_eq_some_iff.1 hentry
    intro hmem
    dsimp only at hmem
    rw [String.toList_ofList] at hmem
    exact (Text.cutFirst?_eq_some_iff.1 hcut).1 (Text.mem_of_mem_trim hmem)

end EnvInject.Dotenv
