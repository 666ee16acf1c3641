import PrinterWiring.Proofs.SessionFile.Effect
import PrinterWiring.Proofs.Text.LineEnd

/-!
# Session files, line by line

Whether a line is refused, and why, does not depend on what was read before it: `refusal?` says it of the line alone.
So a file is read exactly if each of its lines is read as a file of its own, and otherwise the error names the first of
them that is refused, whatever stands behind it (`read_line_by_line`).
-/

namespace PrinterWiring.SessionFile

/-- A text that is read as a session file. -/
def Readable (text : String) : Prop := ∃ d, read text = .ok d

/-- Why a line is refused, if it is. -/
def refusal? (line : String) : Option LineError :=
  match readLine .empty line with
  | .ok _ => none
  | .error cause => some cause

/-- The first line that is refused, counted from `n` on. -/
def firstRefused? (n : Nat) : List String → Option FileError
  | [] => none
  | line :: lines =>
    match refusal? line with
    | some cause => some ⟨n, cause⟩
    | none => firstRefused? (n + 1) lines

/-- A text is read up to a line, and no further. The lines in front of it are read, each of them and all together; the
line is refused as a text of its own; and it is what every text is refused for that starts with these lines, or that
goes on in a new row where they end. -/
structure StopsAt (text : String) (first : List String) (line : String) (cause : LineError) : Prop where
  here : first ++ [line] <+: Text.countedLines text
  earlier : ∀ l ∈ first, Readable l
  alone : read line = .error ⟨1, cause⟩
  front : ∃ head tail, text = head ++ tail ∧ Text.countedLines head = first
  accepted : ∀ head, Text.countedLines head = first → Readable head
  stuck : ∀ other, first ++ [line] <+: Text.countedLines other → read other = .error ⟨first.length + 1, cause⟩
  followed : ∀ head rest, Text.countedLines head = first ++ [line] →
    read (head ++ "\n" ++ rest) = .error ⟨first.length + 1, cause⟩

variable {d : Draft} {n : Nat} {s line : String} {cause : LineError} {ls first : List String} {e : FileError}

/-! ## One line -/

/-- A value that one draft refuses, every draft refuses for the same reason. -/
theorem put_error_congr {t : Target} {value : String} {e : ValueError} (refused : d.put t value = .error e)
    (d' : Draft) : d'.put t value = .error e := by
  cases t with
  | board role => cases refused
  | setting key =>
    simp only [Draft.put, map_eq_error, mapError_eq_error] at refused ⊢
    obtain ⟨cause, set, rfl⟩ := refused
    exact ⟨cause, Settings.set_error_congr set d'.settings, rfl⟩
  | port key =>
    simp only [Draft.put] at refused ⊢
    split_ifs at refused ⊢
    rwa [map_eq_error] at refused ⊢
  | location f | invert f | pullup f =>
    simp only [Draft.put, map_eq_error] at refused ⊢
    exact refused

private theorem readLine_error_congr (refused : readLine d line = .error cause) (d' : Draft) :
    readLine d' line = .error cause := by
  unfold readLine at refused ⊢
  rw [bind_eq_error] at refused ⊢
  refine refused.imp_right fun ⟨parts, content, later⟩ => ⟨parts, content, ?_⟩
  cases parts with
  | none => cases later
  | some p =>
    obtain ⟨key, value⟩ := p
    cases target : Target.ofKey? key with
    | none => simp [target, pure, Except.pure] at later
    | some t =>
      simp only [target, mapError_eq_error] at later ⊢
      obtain ⟨e, put, rfl⟩ := later
      exact ⟨e, put_error_congr put d', rfl⟩

private theorem readLine_eq_error : readLine d line = .error cause ↔ refusal? line = some cause := by
  have fresh : refusal? line = some cause ↔ readLine .empty line = .error cause := by
    unfold refusal?
    cases readLine .empty line <;> simp
  rw [fresh]
  exact ⟨fun refused => readLine_error_congr refused _, fun refused => readLine_error_congr refused _⟩

private theorem refusal?_eq_none : refusal? line = none ↔ ∃ d', readLine d line = .ok d' := by
  cases answer : readLine d line with
  | ok d' =>
    refine iff_of_true (Option.eq_none_iff_forall_ne_some.mpr fun cause refused => ?_) ⟨d', rfl⟩
    cases answer.symm.trans (readLine_eq_error.mpr refused)
  | error cause => simp [readLine_eq_error.mp answer]

/-- Blanks around a line do not count. -/
theorem refusal?_congr {line' : String} (same : Text.trim line = Text.trim line') : refusal? line = refusal? line' := by
  simp only [refusal?, readLine, keyValue, same]

private theorem refusal?_empty : refusal? "" = none := rfl

/-! ## All lines -/

private theorem readLines_eq_error : readLines d n ls = .error e ↔ firstRefused? n ls = some e := by
  induction ls generalizing d n with
  | nil => simp [readLines, firstRefused?]
  | cons l ls ih =>
    cases here : refusal? l with
    | some cause => simp [readLines, firstRefused?, here, readLine_eq_error.mpr here]
    | none =>
      obtain ⟨d', done⟩ := (refusal?_eq_none (d := d)).mp here
      simp only [readLines, firstRefused?, here, done, ih]

private theorem firstRefused?_append (rest : List String) (refused : firstRefused? n ls = some e) :
    firstRefused? n (ls ++ rest) = some e := by
  induction ls generalizing n with
  | nil => cases refused
  | cons l ls ih =>
    simp only [List.cons_append, firstRefused?] at refused ⊢
    split at refused
    · exact refused
    · exact ih refused

private theorem firstRefused?_eq_none : firstRefused? n ls = none ↔ ∀ l ∈ ls, refusal? l = none := by
  induction ls generalizing n with
  | nil => simp [firstRefused?]
  | cons l ls ih =>
    rw [firstRefused?, List.forall_mem_cons]
    cases refusal? l <;> simp [ih]

private theorem firstRefused?_append_line (earlier : ∀ l ∈ first, refusal? l = none)
    (refused : refusal? line = some cause) :
    firstRefused? n (first ++ [line]) = some ⟨n + first.length, cause⟩ := by
  induction first generalizing n with
  | nil => simp [firstRefused?, refused]
  | cons l first ih =>
    obtain ⟨here, later⟩ := List.forall_mem_cons.mp earlier
    rw [List.cons_append, firstRefused?, here, ih later, List.length_cons, Nat.add_right_comm, Nat.add_assoc]

/-- In front of the first line that is refused all lines can be read. -/
theorem exists_of_firstRefused? (found : firstRefused? n ls = some e) : ∃ first line, first ++ [line] <+: ls ∧
    (∀ l ∈ first, refusal? l = none) ∧ refusal? line = some e.cause ∧ e.line = n + first.length := by
  induction ls generalizing n with
  | nil => cases found
  | cons l ls ih =>
    rw [firstRefused?] at found
    cases here : refusal? l with
    | some cause =>
      rw [here] at found
      cases found
      exact ⟨[], l, ⟨ls, rfl⟩, nofun, here, rfl⟩
    | none =>
      rw [here] at found
      obtain ⟨first, line, start, earlier, refused, number⟩ := ih found
      refine ⟨l :: first, line, List.cons_prefix_cons.mpr ⟨rfl, start⟩, List.forall_mem_cons.mpr ⟨here, earlier⟩,
        refused, ?_⟩
      rw [number, List.length_cons]
      omega

/-- How lines end makes no difference to what is refused. -/
theorem firstRefused?_lines (n : Nat) (s : String) :
    firstRefused? n (Text.lines s) = firstRefused? n (Text.countedLines s) := by
  induction s using Text.lines_induction generalizing n with
  | last s clean =>
    rw [Text.lines_of_oneLine clean, Text.countedLines_of_oneLine clean]
    -- What is empty behind the last line feed is a piece, but no line; it is not refused.
    split_ifs with none
    · rw [none]
      rfl
    · rfl
  | more line rest clean ih =>
    have same : refusal? (.ofList (Text.dropReturn line.toList)) = refusal? line := by
      refine refusal?_congr ?_
      rw [Text.trim_dropReturn, String.ofList_toList]
    rw [Text.lines_append, Text.lines_of_oneLine clean, List.singleton_append, Text.countedLines_append clean,
      firstRefused?, firstRefused?, same, ih]

/-- A file is refused at the first line that is. -/
theorem read_eq_error : read s = .error e ↔ firstRefused? 1 (Text.countedLines s) = some e := by
  rw [read, map_eq_error, readLines_eq_error, firstRefused?_lines]

private theorem readable_iff : Readable s ↔ ∀ line ∈ Text.countedLines s, refusal? line = none := by
  rw [← firstRefused?_eq_none (n := 1), Option.eq_none_iff_forall_ne_some]
  simp only [ne_eq, ← read_eq_error, Readable]
  cases read s <;> simp

private theorem read_line (clean : Text.OneLine line) : read line = .error ⟨1, cause⟩ ↔ refusal? line = some cause := by
  rw [read_eq_error, Text.countedLines_of_oneLine clean]
  split_ifs with none
  · simp [none, refusal?_empty, firstRefused?]
  · cases refused : refusal? line <;> simp [firstRefused?, refused]

private theorem readable_line (clean : Text.OneLine line) : Readable line ↔ refusal? line = none := by
  rw [readable_iff, Text.countedLines_of_oneLine clean]
  split_ifs with none
  · simp [none, refusal?_empty]
  · simp

/-- A file is read exactly if each of its lines is read as a file of its own. Otherwise the error names the first line
that is not, counted among all lines: up to that line the file is read, and with it no file is. -/
theorem read_line_by_line (text : String) :
    (Readable text ↔ ∀ line ∈ Text.countedLines text, Readable line) ∧
      ∀ n cause, read text = .error ⟨n, cause⟩ →
        ∃ first line, n = first.length + 1 ∧ StopsAt text first line cause := by
  constructor
  · rw [readable_iff]
    exact forall₂_congr fun line inside => (readable_line (Text.oneLine_of_mem_countedLines inside)).symm
  · intro n cause refused
    obtain ⟨first, line, start, earlier, here, rfl⟩ := exists_of_firstRefused? (read_eq_error.mp refused)
    have clean : ∀ l ∈ first ++ [line], Text.OneLine l := fun l inside =>
      Text.oneLine_of_mem_countedLines (start.subset inside)
    have found : firstRefused? 1 (first ++ [line]) = some ⟨first.length + 1, cause⟩ := by
      rw [firstRefused?_append_line earlier here, Nat.add_comm]
    refine ⟨first, line, Nat.add_comm .., start, fun l inside => ?_, ?_, ?_, fun head same => ?_,
      fun other begins => ?_, fun head rest same => ?_⟩
    · exact (readable_line (clean l (List.mem_append_left _ inside))).mpr (earlier l inside)
    · exact (read_line (clean line (List.mem_append_right _ (List.mem_singleton_self _)))).mpr here
    · exact Text.exists_front ((List.prefix_append _ _).trans start)
    · exact readable_iff.mpr (same ▸ earlier)
    · obtain ⟨rest, whole⟩ := begins
      rw [read_eq_error, ← whole]
      exact firstRefused?_append rest found
    · rw [← same, ← firstRefused?_lines] at found
      rw [read_eq_error, ← firstRefused?_lines, Text.lines_append]
      exact firstRefused?_append _ found

/-- A file with a comment and lines that end in carriage returns, and a value of its third line that is no truth
value. -/
def brokenFile : String := "# wiring\r\nboard.mainboard=octopus\r\nfan_part.invert=maybe\r\nfuture.key=1"

/-- A file whose third line is refused. -/
theorem brokenFile_line_by_line :
    read brokenFile = .error ⟨3, .badValue "fan_part.invert" (.truth "maybe")⟩ ∧
      ∃ first line, 3 = first.length + 1 ∧
        StopsAt brokenFile first line (.badValue "fan_part.invert" (.truth "maybe")) := by
  have refused : read brokenFile = .error ⟨3, .badValue "fan_part.invert" (.truth "maybe")⟩ := by decide +kernel
  exact ⟨refused, (read_line_by_line brokenFile).2 _ _ refused⟩

end PrinterWiring.SessionFile
