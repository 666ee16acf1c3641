import PrinterWiring.CommandLine.Opening
import PrinterWiring.Json.Writer
import PrinterWiring.Session.Registry

/-!
# Listings

The commands that show boards, functions, sessions and preferences, as text in columns or as JSON.
-/

namespace PrinterWiring.CommandLine

/-- JSON as it is printed. -/
def jsonText (v : Json) : String := v.pretty 0 ++ "\n"

/-- An object with its members in the order of their keys. -/
def sortedObject (members : List (String × Json)) : Json := .obj (members.mergeSort fun a b => a.1 ≤ b.1)

/-! ## Boards -/

/-- What is told about a board in the list. -/
def boardJson (b : Board) : Json := .obj
  [("id", .text b.id), ("name", .text b.name), ("manufacturer", .text b.manufacturer), ("role", b.role.toJson),
   ("mcu", .text b.mcu), ("ports", .nat b.ports.length)]

/-- The line of a board in the list. -/
def boardLine (b : Board) : String :=
  "  " ++ Text.padRight 22 b.id ++ " " ++ Text.padRight 10 b.role.name ++ " " ++ Text.padRight 28 b.name ++ " " ++ b.mcu

/-- Lists boards. -/
def listBoards (role : Option Role) (json : Bool) (sources : Sources) : Action Unit := do
  let (_, c) ← sources.load (← .here)
  let boards := match role with
    | some r => c.boardsFor r
    | none => c.boards
  if json then .print (jsonText (.obj [("boards", .arr (boards.map boardJson)), ("count", .nat boards.length)]))
  else if boards.isEmpty then .print "No boards found.\n"
  else .print (Text.unlines ([s!"Boards ({boards.length}):", ""] ++ boards.map boardLine))

/-- The line of a port. -/
def portLine (p : Port) : String :=
  let label := match p.label with
    | some l => s!" ({l})"
    | none => ""
  let pins := p.pins.wired.filterMap fun name => (p.pins.raw? name).map fun raw => name.name ++ "=" ++ raw
  "    " ++ Text.padRight 10 p.id ++ label ++ " " ++ " ".intercalate pins

/-- The lines of the ports of a category. -/
def portLines (b : Board) (c : Category) : List String :=
  ["", s!"  {c.name} ports:"] ++ (b.portsIn c).map portLine

/-- The lines about a board, without its ports. -/
def boardHead (b : Board) : List String :=
  [s!"{b.name} ({b.id})", "  Manufacturer: " ++ b.manufacturer, "  Role:         " ++ b.role.name,
   "  MCU:          " ++ b.mcu]

/-- Shows the ports of a category. Where there are none, their title is followed by an error. -/
def showPorts (b : Board) (c : Category) : Action Unit := do
  .print (Text.unlines (portLines b c))
  if (b.portsIn c).isEmpty then
    throw (.refused s!"Board '{b.id}' has no {c.name} ports")

/-- Shows a board with its ports, or with those of one category. -/
def showBoard (id : String) (category : Option Category) (json : Bool) (sources : Sources) : Action Unit := do
  let (_, c) ← sources.load (← .here)
  let b ← (c.board id).mapError fun e => Failure.refused e.message
  if json then
    let ports := b.ports.filter fun p => category.all (p.category == ·)
    .print (jsonText { b with ports := ports }.toJson)
  else
    .print (Text.unlines (boardHead b))
    (category.elim b.categories ([·])).forM (showPorts b)

/-! ## Functions -/

/-- The line of a function. -/
def functionLine (f : PrinterFunction) : String :=
  let marks := (if f.allowsSecondary then ["multi-pin"] else []) ++ (if f.needsPullup then ["pull-up"] else [])
  "  " ++ Text.padRight 22 f.key ++ " " ++ Text.padRight 11 f.category.name ++ " " ++ Text.padRight 30 f.description
    ++ " " ++ ", ".intercalate marks

/-- Lists functions. -/
def listFunctions (category : Option Category) (json : Bool) : Action Unit :=
  let functions := PrinterFunction.ofCategory category
  if json then .print (jsonText (.arr (functions.map PrinterFunction.summary)))
  else .print (Text.unlines (functions.map functionLine))

/-! ## Sessions -/

/-- The resolved pins of an assignment, in the order of their names. -/
def pinsByName (s : Session) (a : Assignment) : List (String × String) :=
  (((s.pins? a.key).getD .empty).toList.map fun p => (p.1.name, p.2)).mergeSort fun p q => p.1 ≤ q.1

/-- A session as JSON. -/
def sessionJson (s : Session) : Json :=
  let assignment (a : Assignment) : Json := .obj
    [("function", a.function.toJson), ("slot", a.slot.toJson), ("port", .text a.port.toText),
     ("pins", .obj ((pinsByName s a).map fun p => (p.1, .text p.2)))]
  let used := (Enumerated.all : List Category).map fun c => (c, s.registry.usedIn c)
  .obj
    [("mainboard", .ofOption .text (s.board? .mainboard)), ("toolboard", .ofOption .text (s.board? .toolboard)),
     ("assignments", .arr (s.assignments.map assignment)),
     ("used_ports", sortedObject ((used.filter fun p => !p.2.isEmpty).map fun p =>
       (p.1.name, .texts (p.2.map Address.toText)))),
     ("locations", sortedObject (s.locations.toList.map fun p => (p.1.key, p.2.toJson))),
     ("settings", sortedObject (s.settings.entries.map fun p => (p.1.name, .text p.2)))]

/-- The lines about a session. -/
def sessionLines (path : String) (s : Session) : List String :=
  let board (r : Role) : String := "  " ++ Text.padRight 10 r.name ++ " " ++ (s.board? r).getD "(none)"
  let assignment (a : Assignment) : String :=
    "  " ++ Text.padRight 22 a.function.key ++ " " ++ Text.padRight 9 a.slot.name ++ " "
      ++ Text.padRight 18 a.port.toText ++ " "
      ++ " ".intercalate ((pinsByName s a).map fun p => p.1 ++ "=" ++ p.2)
  let setting (k : SettingKey) : String := "  " ++ Text.padRight 24 k.name ++ " " ++ (s.settings.get? k).getD "-"
  let assignments :=
    if s.assignments.isEmpty then ["No ports assigned."]
    else s!"Assignments ({s.assignments.length}):" :: s.assignments.map assignment
  ["Session: " ++ path] ++ (Enumerated.all : List Role).map board ++ [""] ++ assignments ++ ["", "Settings:"]
    ++ (Enumerated.all : List SettingKey).map setting

/-- Shows a session. -/
def showSession (json : Bool) (source : SessionSource) : Action Unit := do
  let o ← opening source.openExisting
  .print (if json then jsonText (sessionJson o.session) else Text.unlines (sessionLines o.path o.session))

/-! ## Preferences -/

/-- The lines about preferences. -/
def preferencesLines (path : String) (p : Preferences) : List String :=
  let line (k : PreferenceKey) : String := "  " ++ Text.padRight 18 k.name ++ " " ++ (p.get? k).getD "(not set)"
  s!"Configuration ({path})" :: (Enumerated.all : List PreferenceKey).map line

/-- Shows the preferences. -/
def showPreferences (json : Bool) (given : Option String) : Action Unit := do
  let h ← .here
  let path := h.preferencesPath given
  let p ← (Preferences.load h.files path).mapError fun e =>
    Failure.refused ("Failed to load configuration: " ++ e.fullMessage)
  .print (if json then jsonText p.toJson else Text.unlines (preferencesLines path p))

/-- Sets a preference. Preferences that cannot be loaded count as standard. -/
def setPreference (key v : String) (given : Option String) : Action Unit := do
  let h ← .here
  let path := h.preferencesPath given
  let before := (Preferences.load h.files path).toOption.getD .standard
  let p ← (before.set h.files key v).mapError fun e => Failure.refused e.fullMessage
  let r ← (p.save h.files path).mapError fun e =>
    Failure.unusable ("Failed to save configuration: " ++ e.fullMessage)
  .replace r
  .print s!"✓ {key} updated\n"

end PrinterWiring.CommandLine
