import EnvInject.Dotenv
import EnvInject.Proofs.Text.Splitting
import EnvInject.Proofs.Text.Trimming

/-!
# Writing ENV documents

Entries are written one to a line, `export KEY="VALUE"`. Blanks may stand around what is on a line,
a line may end in either way, and blank lines and comments may stand between the entries. Reading
gives the entries back, whatever quotes, separators and comment signs they have in them, and it
gives nothing that could not be written so.

* `Writable` : the entries that a line can hold (`writable_of_mem_entries`);
* `Line`, `written`, `held` : lines as they may be written, their text, and the entries they hold;
* `entry?_line` : a line is read as what it holds;
* `entries_read_back` : what is read is writable, and what was written is read.
-/

namespace EnvInject.Dotenv

open Text (isBlank Tight trim)

/-- An entry that a line can hold. -/
structure Writable (entry : String × String) : Prop where
  trimmed : Text.trimmed entry.1 = entry.1
  noEquals : '=' ∉ entry.1.toList
  keyInLine : '\n' ∉ entry.1.toList
  valueInLine : '\n' ∉ entry.2.toList

/-! ## Reading gives writable entries -/

theorem mem_of_mem_unquote {c : Char} {cs : List Char} (h : c ∈ unquote cs) : c ∈ cs := by
  unfold unquote at h
  split at h
  · exact List.mem_of_mem_drop ((List.dropLast_sublist _).subset h)
  · exact h

theorem mem_of_mem_dropStart {c : Char} {start cs : List Char} (h : c ∈ dropStart start cs) :
    c ∈ cs := by
  unfold dropStart at h
  split at h
  · exact List.mem_of_mem_drop h
  · exact h

theorem entry?_eq_some {line : List Char} {entry : String × String} (h : entry? line = some entry) :
    ∃ key value, dropStart "export ".toList (trim line) = key ++ '=' :: value ∧ '=' ∉ key ∧
      entry = (String.ofList (trim key), String.ofList (unquote (trim value))) := by
  unfold entry? at h
  dsimp only at h
  split at h
  · cases h
  · obtain ⟨⟨key, value⟩, hcut, rfl⟩ := Option.map_eq_some_iff.1 h
    obtain ⟨hkey, hsplit⟩ := Text.cutFirst?_eq_some_iff.1 hcut
    exact ⟨key, value, hsplit, hkey, rfl⟩

theorem writable_of_entry? {line : List Char} {entry : String × String} (hline : '\n' ∉ line)
    (h : entry? line = some entry) : Writable entry := by
  obtain ⟨key, value, hsplit, hkey, rfl⟩ := entry?_eq_some h
  have hrest : '\n' ∉ key ++ '=' :: value := by
    rw [← hsplit]
    intro hmem
    exact hline (Text.mem_of_mem_trim (mem_of_mem_dropStart hmem))
  have hparts : '\n' ∉ key ∧ '\n' ∉ value := by simpa using hrest
  refine ⟨?_, ?_, ?_, ?_⟩
  · rw [Text.trimmed, String.toList_ofList, Text.trim_trim]
  · rw [String.toList_ofList]
    intro hmem
    exact hkey (Text.mem_of_mem_trim hmem)
  · rw [String.toList_ofList]
    intro hmem
    exact hparts.1 (Text.mem_of_mem_trim hmem)
  · rw [String.toList_ofList]
    intro hmem
    exact hparts.2 (Text.mem_of_mem_trim (mem_of_mem_unquote hmem))

theorem writable_of_mem_entries {content : String} {entry : String × String}
    (h : entry ∈ entries content) : Writable entry := by
  obtain ⟨line, hline, hentry⟩ := List.mem_filterMap.1 h
  exact writable_of_entry? (Text.notMem_of_mem_splitAt hline) hentry

/-! ## Written lines -/

structure Padding where
  chars : List Char
  blank : ∀ c ∈ chars, isBlank c = true
  inLine : '\n' ∉ chars

/-- A line as it may be written. -/
inductive Line where
  | entry (before : Padding) (key value : String) (after : Padding)
  | comment (before : Padding) (text : List Char) (inLine : '\n' ∉ text)
  | blank (padding : Padding)

inductive LineBreak where
  | lf
  | crlf

def LineBreak.front : LineBreak → List Char
  | lf => []
  | crlf => ['\r']

def quoted (value : String) : List Char := '"' :: (value.toList ++ ['"'])

def assignment (key value : String) : List Char :=
  "export ".toList ++ (key.toList ++ '=' :: quoted value)

namespace Line

/-- The text of a line without its end. -/
def chars : Line → List Char
  | entry before key value after => before.chars ++ (assignment key value ++ after.chars)
  | comment before text _ => before.chars ++ '#' :: text
  | blank padding => padding.chars

def holds? : Line → Option (String × String)
  | entry _ key value _ => some (key, value)
  | _ => none

end Line

def written (lines : List (Line × LineBreak)) : String :=
  String.ofList (lines.flatMap fun line => line.1.chars ++ line.2.front ++ ['\n'])

def held (lines : List (Line × LineBreak)) : List (String × String) :=
  lines.filterMap fun line => line.1.holds?

/-! ## Reading written lines -/

theorem dropStart_append (start cs : List Char) : dropStart start (start ++ cs) = cs := by
  have hstart : start.isPrefixOf (start ++ cs) = true :=
    List.isPrefixOf_iff_prefix.2 (List.prefix_append start cs)
  rw [dropStart, if_pos hstart, List.drop_left]

theorem unquote_quoted (value : String) : unquote (quoted value) = value.toList := by
  have hlast : (quoted value).getLast? = some '"' := by
    unfold quoted
    rw [← List.cons_append, List.getLast?_concat]
  rw [unquote, if_pos]
  · simp [quoted]
  · rw [hlast]
    simp [quoted]

theorem tight_quoted (value : String) : Tight (quoted value) := by
  refine ⟨fun c hc => ?_, fun c hc => ?_⟩
  · obtain rfl : c = '"' := by simpa [quoted, eq_comm] using hc
    decide
  · unfold quoted at hc
    rw [← List.cons_append, List.getLast?_concat] at hc
    obtain rfl : '"' = c := by simpa using hc
    decide

theorem toList_export : "export ".toList = ['e', 'x', 'p', 'o', 'r', 't', ' '] := rfl

theorem head?_export_append (cs : List Char) : ("export ".toList ++ cs).head? = some 'e' := by
  rw [toList_export, List.cons_append, List.head?_cons]

theorem head?_assignment (key value : String) : (assignment key value).head? = some 'e' :=
  head?_export_append _

theorem getLast?_assignment (key value : String) :
    (assignment key value).getLast? = (quoted value).getLast? := by
  have hne : quoted value ≠ [] := List.cons_ne_nil _ _
  unfold assignment
  rw [List.getLast?_append_of_ne_nil _ (by simp), List.getLast?_append_of_ne_nil _ (by simp),
    List.getLast?_cons_of_ne_nil hne]

theorem tight_assignment (key value : String) : Tight (assignment key value) := by
  refine ⟨fun c hc => ?_, fun c hc => (tight_quoted value).last c ?_⟩
  · rw [head?_assignment] at hc
    obtain rfl : 'e' = c := Option.some.inj hc
    decide
  · rwa [getLast?_assignment] at hc

theorem entry?_assignment {key value : String} (h : Writable (key, value))
    {before after : List Char} (hbefore : ∀ c ∈ before, isBlank c = true)
    (hafter : ∀ c ∈ after, isBlank c = true) :
    entry? (before ++ (assignment key value ++ after)) = some (key, value) := by
  have htrim : trim (before ++ (assignment key value ++ after)) = assignment key value :=
    Text.trim_padded hbefore (tight_assignment key value) hafter
  have hcut : Text.cutFirst? '=' (key.toList ++ '=' :: quoted value) =
      some (key.toList, quoted value) := Text.cutFirst?_eq_some_iff.2 ⟨h.noEquals, rfl⟩
  have hkey : trim key.toList = key.toList := by
    have htrimmed : String.ofList (trim key.toList) = key := h.trimmed
    rw [← htrimmed, String.toList_ofList, Text.trim_trim]
  have hstart : dropStart "export ".toList (assignment key value) =
      key.toList ++ '=' :: quoted value := dropStart_append _ _
  have hsign : ((some 'e' : Option Char) == some '#') = false := by decide
  unfold entry?
  dsimp only
  rw [htrim, head?_assignment, hsign, if_neg Bool.false_ne_true, hstart, hcut, Option.map_some,
    hkey, Text.trim_of_tight (tight_quoted value), unquote_quoted, String.ofList_toList,
    String.ofList_toList]

theorem entry?_comment {before : List Char} (hbefore : ∀ c ∈ before, isBlank c = true)
    (text : List Char) : entry? (before ++ '#' :: text) = none := by
  have hhead : (trim (before ++ '#' :: text)).head? = some '#' :=
    Text.head?_trim_padded hbefore (by decide)
  unfold entry?
  dsimp only
  rw [hhead]
  rfl

theorem entry?_blank {cs : List Char} (h : ∀ c ∈ cs, isBlank c = true) : entry? cs = none := by
  unfold entry?
  rw [Text.trim_of_blank h]
  rfl

/-- A line is read as what it holds. -/
theorem entry?_line {line : Line} (h : ∀ entry ∈ line.holds?, Writable entry) {after : List Char}
    (hafter : ∀ c ∈ after, isBlank c = true) : entry? (line.chars ++ after) = line.holds? := by
  cases line with
  | entry before key value padding =>
    have hpadding : ∀ c ∈ padding.chars ++ after, isBlank c = true :=
      List.forall_mem_append.2 ⟨padding.blank, hafter⟩
    rw [Line.chars, List.append_assoc, List.append_assoc]
    exact entry?_assignment (h _ rfl) before.blank hpadding
  | comment before text inLine =>
    rw [Line.chars, List.append_assoc, List.cons_append]
    exact entry?_comment before.blank _
  | blank padding => exact entry?_blank (List.forall_mem_append.2 ⟨padding.blank, hafter⟩)

theorem notMem_assignment {key value : String} (h : Writable (key, value)) :
    '\n' ∉ assignment key value := by
  have hexport : '\n' ∉ "export ".toList := by decide
  have hquoted : '\n' ∉ quoted value := by
    have hvalue : '\n' ∉ value.toList := h.valueInLine
    simp [quoted, hvalue]
  have hrest : '\n' ∉ '=' :: quoted value := List.not_mem_cons_of_ne_of_not_mem (by decide) hquoted
  intro hmem
  rcases List.mem_append.1 hmem with hmem | hmem
  · exact hexport hmem
  · rcases List.mem_append.1 hmem with hmem | hmem
    · exact h.keyInLine hmem
    · exact hrest hmem

theorem notMem_chars {line : Line} (h : ∀ entry ∈ line.holds?, Writable entry) :
    '\n' ∉ line.chars := by
  cases line with
  | entry before key value after =>
    have hassignment : '\n' ∉ assignment key value := notMem_assignment (h _ rfl)
    intro hmem
    rcases List.mem_append.1 hmem with hmem | hmem
    · exact before.inLine hmem
    · rcases List.mem_append.1 hmem with hmem | hmem
      · exact hassignment hmem
      · exact after.inLine hmem
  | comment before text inLine =>
    have hbefore := before.inLine
    simp [Line.chars, hbefore, inLine]
  | blank padding => exact padding.inLine

theorem LineBreak.blank_front (ending : LineBreak) : ∀ c ∈ ending.front, isBlank c = true := by
  cases ending with
  | lf => exact nofun
  | crlf =>
    intro c hc
    obtain rfl := List.mem_singleton.1 hc
    decide

theorem LineBreak.notMem_front (ending : LineBreak) : '\n' ∉ ending.front := by
  cases ending <;> decide

theorem entries_written {lines : List (Line × LineBreak)}
    (h : ∀ entry ∈ held lines, Writable entry) :
    entries (written lines) = held lines := by
  have hlines : ∀ line ∈ lines, ∀ entry ∈ line.1.holds?, Writable entry := by
    intro line hline entry hentry
    exact h entry (List.mem_filterMap.2 ⟨line, hline, hentry⟩)
  let bodies := lines.map fun line => line.1.chars ++ line.2.front
  have hbodies : ∀ body ∈ bodies, '\n' ∉ body := by
    intro body hbody
    obtain ⟨line, hline, rfl⟩ := List.mem_map.1 hbody
    rw [List.mem_append, not_or]
    exact ⟨notMem_chars (hlines line hline), line.2.notMem_front⟩
  have htext : (written lines).toList = bodies.flatMap fun body => body ++ ['\n'] := by
    rw [written, String.toList_ofList, List.flatMap_map]
  rw [entries, htext, Text.splitAt_flatMap hbodies, List.filterMap_append, List.filterMap_map]
  have hempty : [([] : List Char)].filterMap entry? = [] := rfl
  rw [hempty, List.append_nil]
  refine List.filterMap_congr fun line hline => ?_
  exact entry?_line (hlines line hline) line.2.blank_front

def Padding.none : Padding := ⟨[], nofun, nofun⟩

/-- Entries with nothing added to their lines. -/
def plain (list : List (String × String)) : List (Line × LineBreak) :=
  list.map fun entry => (.entry .none entry.1 entry.2 .none, .lf)

theorem held_plain (list : List (String × String)) : held (plain list) = list := by
  rw [held, plain, List.filterMap_map]
  exact List.filterMap_some

/-- **Reading undoes writing, and reads nothing else.** What is read is writable, and entries that
are writable are read back from every text that they may be written as. -/
theorem entries_read_back :
    (∀ content, ∀ entry ∈ entries content, Writable entry) ∧
    ∀ list : List (String × String), (∀ entry ∈ list, Writable entry) →
      entries (written (plain list)) = list ∧
      ∀ lines, held lines = list → entries (written lines) = list := by
  refine ⟨fun content entry => writable_of_mem_entries, fun list hwritable => ?_⟩
  have hback : ∀ lines, held lines = list → entries (written lines) = list := by
    rintro lines rfl
    exact entries_written hwritable
  exact ⟨hback (plain list) (held_plain list), hback⟩

/-- An empty key, and a key that looks like the start of a comment behind another `export`. -/
def hardEntries : List (String × String) :=
  [("", "x\"="), ("export #", " y#\r"), ("export #", "")]

/-- Those entries with blanks, a comment and a blank line. -/
def hardLines : List (Line × LineBreak) :=
  [(.entry ⟨[' ', '\t'], List.all_eq_true.1 rfl, by decide⟩ "" "x\"="
      ⟨[' '], List.all_eq_true.1 rfl, by decide⟩, .crlf),
    (.comment ⟨[' '], List.all_eq_true.1 rfl, by decide⟩ ['a', '=', 'b'] (by decide), .lf),
    (.blank ⟨['\t'], List.all_eq_true.1 rfl, by decide⟩, .lf),
    (.entry .none "export #" " y#\r" .none, .lf),
    (.entry .none "export #" "" .none, .crlf)]

theorem writable_hardEntries : ∀ entry ∈ hardEntries, Writable entry := by
  simp only [hardEntries, List.forall_mem_cons]
  refine ⟨?_, ?_, ?_, nofun⟩ <;> exact ⟨by decide, by decide, by decide, by decide⟩

theorem entries_read_back_hard_entries :
    entries
        " \texport =\"x\"=\" \r\n #a=b\n\t\nexport export #=\" y#\r\"\nexport export #=\"\"\r\n" =
      hardEntries := by
  have hlines : held hardLines = hardEntries := rfl
  have hread := (entries_read_back.2 hardEntries writable_hardEntries).2 hardLines hlines
  have htext : written hardLines =
      " \texport =\"x\"=\" \r\n #a=b\n\t\nexport export #=\" y#\r\"\nexport export #=\"\"\r\n" := by
    decide
  rwa [htext] at hread

end EnvInject.Dotenv
