import Mathlib.Tactic.SplitIfs
import PrinterWiring.Proofs.PrinterConfig.Sections
import PrinterWiring.Proofs.Text.Cut

/-!
# Reading files back

A file is read row by row. A row is blank or says one line, and which line it says is seen from how it begins: the row
of a line says this line (`readRow?_row`). A file of neat lines is read as the lines that it was written of
(`readLines?_configText`).
-/

namespace PrinterWiring

open ConfigLine

/-- A character of a key. -/
def isKeyLetter (c : Char) : Bool := c.isAlphanum || c = '_'

/-- The key of an entry: letters, digits and underscores. -/
def IsEntryKey (key : String) : Prop := key ≠ "" ∧ key.toList.all isKeyLetter = true

instance (key : String) : Decidable (IsEntryKey key) := inferInstanceAs (Decidable (_ ∧ _))

namespace ConfigLine

/-- A line as it is written; the blank row in front of a header is not part of it. -/
def row : ConfigLine → String
  | comment text => "# " ++ text
  | header name => "[" ++ name ++ "]"
  | entry key value => key ++ ": " ++ value

/-- The rows that a line takes in its file. -/
def rows : ConfigLine → List String
  | header name => ["", (header name).row]
  | line => [line.row]

/-- A line that cannot be taken for another one. -/
def Clear : ConfigLine → Prop
  | comment _ => True
  | header name => ']' ∉ name.toList
  | entry key _ => IsEntryKey key

/-- A line that is read back as it is. -/
@[mk_iff]
structure Clean (line : ConfigLine) : Prop where
  clear : line.Clear
  whole : Text.OneLine line.row

end ConfigLine

/-- Lines that are all read back as they are. -/
def Neat (lines : List ConfigLine) : Prop := ∀ line ∈ lines, line.Clean

/-! ## One row -/

theorem oneLine_entry {key value : String} (solid : IsEntryKey key) :
    Text.OneLine (entry key value).row ↔ Text.OneLine value := by
  have marks : Text.OneLine ": " := by decide
  have own : Text.OneLine key := fun inside => absurd (List.all_eq_true.mp solid.2 _ inside) (by decide)
  simp [row, own, marks]

/-- The line that a row says, if it is not blank. A row that says no line is refused. -/
def readRow? (row : String) : Option (List ConfigLine) :=
  match row.toList with
  | [] => some []
  | '#' :: ' ' :: text => some [comment (.ofList text)]
  | '[' :: rest =>
    match Text.cutFirst? ']' rest with
    | some (name, []) => some [header (.ofList name)]
    | _ => none
  | cs =>
    match Text.cutFirst? ':' cs with
    | some (key, ' ' :: value) =>
      if IsEntryKey (.ofList key) then some [entry (.ofList key) (.ofList value)] else none
    | _ => none

private theorem readRow?_blank : readRow? "" = some [] := rfl

/-- The row of a line that is clear is read as this line. -/
theorem readRow?_row {line : ConfigLine} (clear : line.Clear) : readRow? line.row = some [line] := by
  cases line with
  | comment text => simp [readRow?, row]
  | header name =>
    have cut : Text.cutFirst? ']' (name.toList ++ [']']) = some (name.toList, []) := Text.cutFirst?_append clear []
    simp [readRow?, row, cut]
  | entry key value =>
    have letters : ∀ c ∈ key.toList, isKeyLetter c = true := List.all_eq_true.mp clear.2
    have colon : ':' ∉ key.toList := fun inside => absurd (letters ':' inside) (by decide)
    have cut : Text.cutFirst? ':' (key.toList ++ ':' :: ' ' :: value.toList) = some (key.toList, ' ' :: value.toList) :=
      Text.cutFirst?_append colon _
    have whole : (entry key value).row.toList = key.toList ++ ':' :: ' ' :: value.toList := by simp [row]
    -- A row that begins with another mark does not begin with a key.
    have first {c : Char} {rest : List Char} (mark : key.toList ++ ':' :: ' ' :: value.toList = c :: rest) :
        isKeyLetter c = true := by
      cases spelled : key.toList with
      | nil => exact absurd (String.toList_inj.mp spelled) clear.1
      | cons c' cs =>
        rw [spelled, List.cons_append, List.cons.injEq] at mark
        exact mark.1 ▸ letters c' (spelled ▸ List.mem_cons_self ..)
    unfold readRow?
    rw [whole]
    split
    · next none => simp at none
    · next mark => exact absurd (first mark) (by decide)
    · next mark => exact absurd (first mark) (by decide)
    · simpa [cut] using show IsEntryKey key from clear

/-! ## All rows -/

/-- The lines of a file, unless one of its rows is refused. -/
def readLines? (text : String) : Option (List ConfigLine) := ((Text.lines text).mapM readRow?).map List.flatten

/-- The sections of a file, unless one of its rows is refused or has an entry that is in no section. -/
def readSections? (text : String) : Option (List ConfigSection) :=
  (readLines? text).bind fun lines => if looseEntries lines = [] then some (sections lines) else none

/-- A file is written row by row. -/
theorem configText_eq (lines : List ConfigLine) : configText lines = Text.unlines (lines.flatMap rows) := by
  induction lines with
  | nil => rfl
  | cons line lines ih =>
    have text : line.toText = Text.unlines line.rows := by
      cases line <;> simp [toText, rows, row, Text.unlines, ← String.toList_inj]
    have split : Text.unlines ((line :: lines).flatMap rows) =
        Text.unlines line.rows ++ Text.unlines (lines.flatMap rows) := by
      simp [Text.unlines]
    rw [split, ← text, ← ih]
    simp [configText]

theorem mem_rows {line : ConfigLine} {row : String} (inside : row ∈ line.rows) : row = "" ∨ row = line.row := by
  cases line with
  | comment text | entry key value => exact .inr (List.mem_singleton.mp inside)
  | header name => exact List.mem_pair.mp inside

variable {lines : List ConfigLine}

theorem lines_configText (neat : Neat lines) :
    Text.lines (configText lines) = lines.flatMap rows ++ [""] := by
  rw [configText_eq]
  refine Text.lines_unlines fun row inside => ?_
  obtain ⟨line, listed, here⟩ := List.mem_flatMap.mp inside
  rcases mem_rows here with rfl | rfl
  · decide
  · exact (neat line listed).whole

private theorem mapM_rows (neat : Neat lines) :
    ∃ read, (lines.flatMap rows ++ [""]).mapM readRow? = some read ∧ read.flatten = lines := by
  induction lines with
  | nil => exact ⟨[[]], rfl, rfl⟩
  | cons line lines ih =>
    obtain ⟨first, rest⟩ := List.forall_mem_cons.mp neat
    obtain ⟨read, later, same⟩ := ih rest
    have here := readRow?_row first.clear
    cases line with
    | comment text => exact ⟨[comment text] :: read, by simp [rows, here, later], by simp [same]⟩
    | header name => exact ⟨[] :: [header name] :: read, by simp [rows, here, later, readRow?_blank], by simp [same]⟩
    | entry key value => exact ⟨[entry key value] :: read, by simp [rows, here, later], by simp [same]⟩

/-- Neat lines are read back. -/
theorem readLines?_configText (neat : Neat lines) : readLines? (configText lines) = some lines := by
  obtain ⟨read, done, same⟩ := mapM_rows neat
  rw [readLines?, lines_configText neat, done, Option.map_some, same]

/-- The sections of neat lines are read back. -/
theorem readSections?_configText (neat : Neat lines) (headed : looseEntries lines = []) :
    readSections? (configText lines) = some (sections lines) := by
  rw [readSections?, readLines?_configText neat, Option.bind_some, if_pos headed]

end PrinterWiring
