import PrinterWiring.Text.Blank
import PrinterWiring.Text.Split

/-!
# Paths

A path is a text of names between slashes. Two paths may lead to one place: `.` stays where it is, `..`
goes up, and repeated slashes count as one. So that a path leads anywhere, it has to lead through directories.
-/

namespace PrinterWiring.Path

/-- Joins names with slashes. -/
def joined (names : List (List Char)) : String := .ofList (['/'].intercalate names)

/-- The names of a path. -/
def names (path : String) : List String := (Text.pieces '/' path.toList).map String.ofList

/-- Where a path begins: at the root, or in the working directory. -/
def start (path : String) : List String := if path.toList.head? = some '/' then ["/"] else []

/-- Goes up from a directory. The root has nothing above it. -/
def up (place : List String) : List String :=
  if place = ["/"] then place
  else if place.getLast?.all (· = "..") then place ++ [".."]
  else place.dropLast

/-- Goes on from a directory by one name. -/
def step (place : List String) (name : String) : List String :=
  if name = "" ∨ name = "." then place else if name = ".." then up place else place ++ [name]

/-- The places that names lead to one after the other. -/
def steps : List String → List String → List (List String)
  | _, [] => []
  | place, name :: names => step place name :: steps (step place name) names

/-- The place that a path leads to, as the names on the way. -/
def place (path : String) : List String := (names path).foldl step (start path)

/-- The places that a path leads through before its last name. -/
def passed (path : String) : List (List String) := steps (start path) (names path).dropLast

/-- The path of a file in a directory. -/
def join (directory name : String) : String :=
  if directory.isEmpty || directory.toList.getLast? = some '/' then directory ++ name
  else directory ++ "/" ++ name

/-- A name without its extension, which begins at the last dot. A dot at the front begins none. -/
def stem (name : List Char) : List Char :=
  match Text.cutLast? '.' name with
  | some (c :: front, _) => c :: front
  | _ => name

/-- The names of a path from the last one back, without what stays in place at the end. -/
def lastFirst (path : String) : List (List Char) :=
  (Text.pieces '/' path.toList).reverse.dropWhile fun name => name ∈ [[], ['.']]

/-- The directory that a path is in, if the path says it. -/
def directory? (path : String) : Option String := Text.nonEmpty? (joined (lastFirst path).tail.reverse)

/-- The path with another extension on its last name. -/
def withExtension (extension path : String) : String :=
  match lastFirst path with
  | [] => path
  | last :: front =>
    if last = ['.', '.'] then path
    else joined ((stem last ++ '.' :: extension.toList) :: front).reverse

end PrinterWiring.Path
