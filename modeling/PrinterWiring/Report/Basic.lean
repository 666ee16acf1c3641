import PrinterWiring.Error

/-!
# Reports

A report lists problems, which keep a configuration from being rendered strictly, and warnings, which
do not.
-/

namespace PrinterWiring

/-- The kind of a problem. -/
inductive ProblemKind where
  /-- A board, setting or function is missing. -/
  | missingField
  /-- A port does not wire a pin that is needed. -/
  | pinNotWired
deriving DecidableEq

/-- The title of a kind. -/
def ProblemKind.title : ProblemKind → String
  | missingField => "Missing Required Field"
  | pinNotWired => "Attribute Unavailable"

def ProblemKind.key : ProblemKind → String
  | missingField => "missing_required_field"
  | pinNotWired => "attribute_unavailable"

/-- Something that keeps a configuration from being rendered strictly. -/
structure Problem where
  kind : ProblemKind
  /-- The setting or function that the problem is about. -/
  field : String
  /-- The port and the pin that the problem is about. -/
  place : Option (Address × PinName)
  message : String
  /-- What to do about it. -/
  suggestion : Option String
deriving DecidableEq

/-- The text of a problem. -/
def Problem.toText (p : Problem) : String :=
  (match p.place with
    | some (port, _) => "[" ++ port.toText ++ "] "
    | none => "")
  ++ p.kind.title ++ ": " ++ p.message
  ++ (match p.suggestion with
    | some s => "\n    → " ++ s
    | none => "")

/-- Problems and warnings, in the order in which they were found. -/
structure Report where
  problems : List Problem
  warnings : List String
deriving DecidableEq

namespace Report

/-- Whether there are no problems. -/
def isValid (r : Report) : Bool := r.problems.isEmpty

/-- The fields that are missing. -/
def missingFields (r : Report) : List String := (r.problems.filter (·.kind = .missingField)).map (·.field)

/-- The error of a strict rendering: all missing fields together, or else the first pin that is not
wired. -/
def error? (r : Report) : Option WiringError :=
  if r.missingFields.isEmpty then
    (r.problems.filterMap (·.place)).head?.map fun (port, missing) => .pinNotWired port.port missing
  else some (.missingFields r.missingFields)

/-- Numbered lines. -/
def numbered (texts : List String) : String :=
  String.join (texts.mapIdx fun i s => "  " ++ toString (i + 1) ++ ". " ++ s ++ "\n")

/-- The text of a report. -/
def toText (r : Report) : String :=
  let problems :=
    if r.problems.isEmpty then ""
    else s!"❌ {r.problems.length} validation errors:\n" ++ numbered (r.problems.map Problem.toText)
  let warnings :=
    if r.warnings.isEmpty then ""
    else s!"⚠️  {r.warnings.length} warnings:\n" ++ numbered r.warnings
  problems ++ (if r.problems.isEmpty || r.warnings.isEmpty then "" else "\n") ++ warnings

end Report

end PrinterWiring
