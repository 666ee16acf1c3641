import PrinterWiring.Error
import PrinterWiring.Text.Blank

/-!
# The catalog of boards

A catalog holds boards in the order of their ids, each id once. Boards enter it from entries, in
which ports are grouped by category; an entry is checked as a whole before it becomes a board, and
the entries of a file are merged all together or not at all.
-/

namespace PrinterWiring

/-- The boards that can be selected, in the order of their ids. -/
structure Catalog where
  boards : List Board
  increasing : boards.Pairwise (·.id < ·.id)

/-- A motor port of an entry. -/
structure MotorEntry where
  id : String
  label : Option String
  pins : MotorPins
deriving DecidableEq

/-- A port of an entry that has a single pin. -/
structure SimpleEntry where
  id : String
  label : Option String
  pin : String
deriving DecidableEq

/-- A probe port of an entry. -/
structure ProbeEntry where
  id : String
  label : Option String
  signal : String
  servo : Option String
deriving DecidableEq

/-- The ports of an entry, by category. -/
structure PortEntries where
  motor : List MotorEntry
  heater : List SimpleEntry
  thermistor : List SimpleEntry
  fan : List SimpleEntry
  endstop : List SimpleEntry
  probe : List ProbeEntry
  misc : List SimpleEntry
deriving DecidableEq

/-- A board as a catalog file describes it. -/
structure BoardEntry where
  id : String
  name : String
  manufacturer : String
  role : Role
  mcu : String
  ports : PortEntries
deriving DecidableEq

/-- Why a catalog file was refused. -/
inductive CatalogError where
  /-- It is no JSON, or not of the shape of a catalog file. -/
  | notCatalog
  | blankBoardId
  | badPin (board port pin : String)
  | blankPortId (board : String)
  | repeatedPort (board port : String)
  | repeatedBoard (id : String)
deriving DecidableEq

def CatalogError.message : CatalogError → String
  | notCatalog => "Invalid catalog JSON"
  | blankBoardId => "Board id cannot be empty"
  | badPin board port pin =>
    s!"Board '{board}' port '{port}': invalid raw pin '{pin}' (modifiers and MCU prefixes are added during resolution)"
  | blankPortId board => s!"Board '{board}' has a port with an empty id"
  | repeatedPort board port => s!"Board '{board}' defines port '{port}' more than once"
  | repeatedBoard id => s!"Duplicate board id '{id}' in catalog"

/-! ## From entries to boards -/

/-- Whether a character may stand in a raw pin. -/
def isPinChar (c : Char) : Bool := c.isAlphanum || c = '_' || c = '.'

/-- Whether a text is a raw pin: at least one letter, digit, underscore or dot, and nothing else. -/
def isRawPin (s : String) : Bool := !s.isEmpty && s.toList.all isPinChar

/-- The raw pins of a port in the order in which they are checked. -/
def PinSet.rawPins (pins : PinSet) : List String := pins.wired.filterMap pins.raw?

/-- The ports of an entry in the order of their categories. -/
def PortEntries.toPorts (e : PortEntries) : List Port :=
  let simple (c : Category) (ports : List SimpleEntry) : List Port :=
    ports.map fun p => ⟨p.id, p.label, c, .simple p.pin⟩
  (e.motor.map fun p => ⟨p.id, p.label, .motor, .motor p.pins⟩)
    ++ simple .heater e.heater ++ simple .thermistor e.thermistor ++ simple .fan e.fan
    ++ simple .endstop e.endstop
    ++ (e.probe.map fun p => ⟨p.id, p.label, .probe, .probe p.signal p.servo⟩)
    ++ simple .misc e.misc

/-- Checks that the pins of the ports are raw pins. -/
def checkPins (board : String) (ports : List Port) : Except CatalogError Unit :=
  ports.forM fun p => p.pins.rawPins.forM fun raw =>
    if isRawPin raw then .ok () else .error (.badPin board p.id raw)

/-- Checks that the ids are not blank, and distinct up to letter case; `seen` are those of the ports
before. -/
def checkIds (board : String) : List String → List Port → Except CatalogError Unit
  | _, [] => .ok ()
  | seen, p :: ports =>
    if Text.isAllBlank p.id then .error (.blankPortId board)
    else if seen.any (Text.sameFolded · p.id) then .error (.repeatedPort board p.id)
    else checkIds board (p.id :: seen) ports

/-- The board that an entry describes, if it passes the checks. -/
def BoardEntry.toBoard (e : BoardEntry) : Except CatalogError Board := do
  if Text.isAllBlank e.id then throw .blankBoardId
  checkPins e.id e.ports.toPorts
  checkIds e.id [] e.ports.toPorts
  return ⟨e.id, e.name, e.manufacturer, e.role, e.mcu, e.ports.toPorts⟩

/-! ## Catalogs -/

/-- Inserts a board where its id belongs, in place of one with the same id. -/
def insertBoard (b : Board) : List Board → List Board
  | [] => [b]
  | c :: cs => if b.id < c.id then b :: c :: cs else if c.id < b.id then c :: insertBoard b cs else b :: cs

theorem mem_insertBoard {a b : Board} {cs : List Board} (h : a ∈ insertBoard b cs) : a = b ∨ a ∈ cs := by
  induction cs with
  | nil => simpa [insertBoard] using h
  | cons c cs ih =>
    simp only [insertBoard] at h
    split at h
    · simpa using h
    · split at h
      · rcases List.mem_cons.1 h with rfl | inside
        · simp
        · rcases ih inside with rfl | older <;> simp_all
      · rcases List.mem_cons.1 h with rfl | inside <;> simp_all

private theorem insertBoard_increasing {b : Board} {cs : List Board} (h : cs.Pairwise (·.id < ·.id)) :
    (insertBoard b cs).Pairwise (·.id < ·.id) := by
  induction cs with
  | nil => simp [insertBoard]
  | cons c cs ih =>
    obtain ⟨first, rest⟩ := List.pairwise_cons.1 h
    simp only [insertBoard]
    split
    · rename_i before
      refine List.pairwise_cons.2 ⟨?_, h⟩
      intro a inside
      rcases List.mem_cons.1 inside with rfl | later
      · exact before
      · exact String.lt_trans before (first a later)
    · rename_i notBefore
      split
      · rename_i behind
        refine List.pairwise_cons.2 ⟨?_, ih rest⟩
        intro a inside
        rcases mem_insertBoard inside with rfl | older
        · exact behind
        · exact first a older
      · rename_i notBehind
        have same : b.id = c.id := String.le_antisymm notBehind notBefore
        refine List.pairwise_cons.2 ⟨?_, rest⟩
        intro a inside
        exact same ▸ first a inside

namespace Catalog

/-- The catalog without boards. -/
def empty : Catalog := ⟨[], .nil⟩

/-- Adds a board. -/
def insert (c : Catalog) (b : Board) : Catalog := ⟨insertBoard b c.boards, insertBoard_increasing c.increasing⟩

/-- The board with an id, in exactly this spelling. -/
def board? (c : Catalog) (id : String) : Option Board := c.boards.find? (·.id == id)

/-- The board with an id, or the error that there is none. -/
def board (c : Catalog) (id : String) : Except WiringError Board :=
  match c.board? id with
  | some b => .ok b
  | none => .error (.unknownBoard id)

/-- The boards made for a role. -/
def boardsFor (c : Catalog) (r : Role) : List Board := c.boards.filter (·.role = r)

/-- The boards that some entries describe, if all of them pass and no id is taken: neither by a board
of the catalog nor by an entry before. -/
def accept (c : Catalog) : List Board → List BoardEntry → Except CatalogError (List Board)
  | accepted, [] => .ok accepted.reverse
  | accepted, e :: es => do
    let b ← e.toBoard
    if (c.board? b.id).isSome || accepted.any (·.id == b.id) then throw (.repeatedBoard b.id)
    c.accept (b :: accepted) es

/-- Adds the boards that some entries describe, all or none. -/
def merge (c : Catalog) (entries : List BoardEntry) : Except CatalogError Catalog :=
  (c.accept [] entries).map fun boards => boards.foldl insert c

end Catalog

end PrinterWiring
