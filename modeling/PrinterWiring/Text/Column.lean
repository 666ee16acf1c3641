/-!
# Columns of plain text

Widths count code points; a text that is too wide for its column is not cut.
-/

namespace PrinterWiring.Text

/-- The text, filled up with spaces on the right to the given width. -/
def padRight (width : Nat) (s : String) : String :=
  s ++ .ofList (List.replicate (width - s.length) ' ')

/-- The lines, each ended by a line feed. -/
def unlines (lines : List String) : String := String.join (lines.map (· ++ "\n"))

end PrinterWiring.Text
