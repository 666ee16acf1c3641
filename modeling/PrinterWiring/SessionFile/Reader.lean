import PrinterWiring.Session.Restore
import PrinterWiring.Text.Split

/-!
# Reading session files

A session file is a list of `key=value` lines, between blank lines and comments. A key addresses a
target: a board, a setting, or a field of a function. Lines take effect in turn, so that the last line
for a target decides; keys that address nothing are skipped. The first line that cannot be read is the
error of the whole file.
-/

namespace PrinterWiring.SessionFile

/-- What a key addresses. -/
inductive Target where
  | board (role : Role)
  | setting (key : SettingKey)
  | port (key : SlotKey)
  | location (function : PrinterFunction)
  | invert (function : PrinterFunction)
  | pullup (function : PrinterFunction)
deriving DecidableEq

/-- The target of a field of a function. -/
def Target.ofField? (f : PrinterFunction) (field : String) : Option Target :=
  if field = "port" then some (.port ⟨f, .primary⟩)
  else if field = "port_2" then some (.port ⟨f, .secondary⟩)
  else if field = "location" then some (.location f)
  else if field = "invert" then some (.invert f)
  else if field = "pullup" then some (.pullup f)
  else none

/-- The target of a key. In a key for a function the last dot stands before the field, and the function
may go by any of its names. -/
def Target.ofKey? (key : String) : Option Target :=
  if key = "board.mainboard" then some (.board .mainboard)
  else if key = "board.toolboard" then some (.board .toolboard)
  else
    match SettingKey.named? key with
    | some k => some (.setting k)
    | none => do
      let (function, field) ← Text.splitLast? '.' key
      Target.ofField? (← PrinterFunction.parse? function) field

/-- Why the value of a line was refused. -/
inductive ValueError where
  | setting (cause : SettingError)
  | name (cause : NameError)
  /-- Neither true nor false. -/
  | truth (given : String)
deriving DecidableEq

def ValueError.message : ValueError → String
  | .setting cause => cause.message
  | .name cause => cause.message
  | .truth given => s!"Expected true or false, got '{given}'"

/-- Reads a truth value, in any letter case. -/
def readTruth (s : String) : Except ValueError Bool :=
  let wanted := Text.lower s
  if wanted ∈ ["true", "yes", "1", "on"] then .ok true
  else if wanted ∈ ["false", "no", "0", "off"] then .ok false
  else .error (.truth wanted)

/-- The facts read so far. -/
structure Draft where
  boards : Table Role String
  ports : Table SlotKey Address
  options : Table PrinterFunction PinOptions
  locations : Table PrinterFunction Role
  settings : Settings

namespace Draft

/-- The draft before the first line. -/
def empty : Draft := ⟨.empty, .empty, .empty, .empty, .standard⟩

/-- Changes the pin options of a function. -/
def changeOptions (d : Draft) (f : PrinterFunction) (change : PinOptions → PinOptions) : Draft :=
  { d with options := d.options.insert f (change ((d.options.get? f).getD .standard)) }

/-- Gives a target the value of a line. -/
def put (d : Draft) (t : Target) (value : String) : Except ValueError Draft :=
  match t with
  | .board role => .ok { d with boards := d.boards.put role (Text.nonEmpty? value) }
  | .setting key => ((d.settings.set key value).mapError .setting).map fun s => { d with settings := s }
  | .port key =>
    if value.isEmpty then .ok { d with ports := d.ports.erase key }
    else ((Address.parse value).mapError .name).map fun a => { d with ports := d.ports.insert key a }
  | .location f => ((Role.parse value).mapError .name).map fun r => { d with locations := d.locations.insert f r }
  | .invert f => (readTruth value).map fun b => d.changeOptions f fun o => { o with invert := b }
  | .pullup f => (readTruth value).map fun b => d.changeOptions f fun o => { o with suppressPullup := !b }

/-- The document of a draft. -/
def toDocument (d : Draft) : Document where
  boards := d.boards
  records := d.ports.toList.map fun p => ⟨p.1.function, p.1.slot, p.2.role, p.2.port⟩
  options := d.options.filter fun _ o => !o.isStandard
  locations := d.locations
  settings := d.settings

end Draft

/-- Why a line was refused. -/
inductive LineError where
  | noEquals (line : String)
  | badValue (key : String) (cause : ValueError)
deriving DecidableEq

/-- Takes one pair of double quotes off a value. -/
def unquote (s : String) : String :=
  match s.toList with
  | '"' :: rest => if rest.getLast? = some '"' then .ofList rest.dropLast else s
  | _ => s

/-- The key and the value of a line; none, if the line is blank or a comment. -/
def keyValue (line : String) : Except LineError (Option (String × String)) :=
  let text := Text.trim line
  if text.isEmpty || text.toList.head? == some '#' then .ok none
  else
    match Text.splitFirst? '=' text with
    | none => .error (.noEquals text)
    | some (key, value) => .ok (some (Text.trim key, unquote (Text.trim value)))

/-- Takes in one line. -/
def readLine (d : Draft) (line : String) : Except LineError Draft := do
  match ← keyValue line with
  | none => return d
  | some (key, value) =>
    match Target.ofKey? key with
    | none => return d
    | some t => (d.put t value).mapError (.badValue key)

/-- Why a session file was refused: its first bad line, counted from one. -/
structure FileError where
  line : Nat
  cause : LineError
deriving DecidableEq

def FileError.message (e : FileError) : String :=
  match e.cause with
  | .noEquals line => s!"Line {e.line}: expected 'key=value', got '{line}'"
  | .badValue key cause => s!"Line {e.line}: invalid value for '{key}': {cause.message}"

/-- Takes in the lines from line number `n` on. -/
def readLines (d : Draft) (n : Nat) : List String → Except FileError Draft
  | [] => .ok d
  | line :: lines =>
    match readLine d line with
    | .ok d => readLines d (n + 1) lines
    | .error cause => .error ⟨n, cause⟩

/-- Reads a session file. -/
def read (s : String) : Except FileError Document :=
  (readLines .empty 1 (Text.lines s)).map Draft.toDocument

end PrinterWiring.SessionFile
