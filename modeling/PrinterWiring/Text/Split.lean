/-!
# Cutting texts

Lines, and the two cuts that read `key=value` and `function.field`: at the first and at the last
occurrence of a separator.
-/

namespace PrinterWiring.Text

/-- The pieces between the occurrences of `sep`. There is always one more piece than occurrences. -/
def pieces (sep : Char) : List Char → List (List Char)
  | [] => [[]]
  | c :: cs =>
    if c = sep then
      [] :: pieces sep cs
    else
      match pieces sep cs with
      | [] => [[c]]
      | piece :: rest => (c :: piece) :: rest

/-- The parts before and after the first occurrence of `sep`. -/
def cutFirst? (sep : Char) : List Char → Option (List Char × List Char)
  | [] => none
  | c :: cs => if c = sep then some ([], cs) else (cutFirst? sep cs).map fun p => (c :: p.1, p.2)

/-- The parts before and after the last occurrence of `sep`. -/
def cutLast? (sep : Char) : List Char → Option (List Char × List Char)
  | [] => none
  | c :: cs =>
    match cutLast? sep cs with
    | some p => some (c :: p.1, p.2)
    | none => if c = sep then some ([], cs) else none

/-- The lines of a text: the pieces between line feeds. -/
def lines (s : String) : List String := (pieces '\n' s.toList).map String.ofList

/-- The parts before and after the first occurrence of `sep`. -/
def splitFirst? (sep : Char) (s : String) : Option (String × String) :=
  (cutFirst? sep s.toList).map fun p => (.ofList p.1, .ofList p.2)

/-- The parts before and after the last occurrence of `sep`. -/
def splitLast? (sep : Char) (s : String) : Option (String × String) :=
  (cutLast? sep s.toList).map fun p => (.ofList p.1, .ofList p.2)

end PrinterWiring.Text
