import PrinterWiring.Session.Restore
import PrinterWiring.Text.Column

/-!
# Writing session files

The text of a document: boards, ports, function options and settings, each group under a comment. What
is not set is not written, and neither are empty groups, but for the boards.
-/

namespace PrinterWiring.SessionFile

/-- The lines of the selected boards. -/
def boardLines (d : Document) : List String :=
  d.boards.toList.map fun p => s!"board.{p.1.name}={p.2}"

/-- The records in the order of their slots. Records of one slot keep their order. -/
def recordsInOrder (d : Document) : List PortRecord :=
  (Enumerated.all : List SlotKey).flatMap fun k => d.records.filter (·.key = k)

/-- The lines of the wired ports. -/
def portLines (d : Document) : List String :=
  (recordsInOrder d).map fun r => s!"{r.function.key}.{r.slot.portField}={r.role.name}:{r.port}"

/-- The lines of the locations. -/
def locationLines (d : Document) : List String :=
  d.locations.toList.map fun p => s!"{p.1.key}.location={p.2.name}"

/-- The lines of the pin options. -/
def optionLines (d : Document) : List String :=
  d.options.toList.flatMap fun p =>
    (if p.2.invert then [s!"{p.1.key}.invert=true"] else [])
      ++ (if p.2.suppressPullup then [s!"{p.1.key}.pullup=false"] else [])

/-- The lines of the settings. -/
def settingLines (d : Document) : List String :=
  d.settings.entries.map fun p => s!"{p.1.name}={p.2}"

/-- A group of lines under a comment, if there are any. -/
def group (title : String) (lines : List String) : List String :=
  if lines.isEmpty then [] else ["", "# " ++ title] ++ lines

/-- The lines of a document. -/
def documentLines (d : Document) : List String :=
  ["# klipconf session", "", "# Boards"] ++ boardLines d ++ group "Ports" (portLines d)
    ++ group "Function options" (locationLines d ++ optionLines d) ++ group "Settings" (settingLines d)

/-- Writes a session file. -/
def write (d : Document) : String := Text.unlines (documentLines d)

end PrinterWiring.SessionFile
