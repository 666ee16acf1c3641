import PrinterWiring.CommandLine.Opening
import PrinterWiring.Session.Edit

/-!
# Changing sessions

The commands that change a session file. A change is checked, carried out on the session that was opened,
and saved. A change that turns out to be none is reported and not saved.
-/

namespace PrinterWiring.CommandLine

/-- Why an argument is not the address of a port. -/
inductive AddressError where
  | blank
  | invalid (given : String) (cause : NameError)
deriving DecidableEq

def AddressError.message : AddressError → String
  | blank => "Port id cannot be empty"
  | invalid given cause => s!"Invalid port '{given}': {cause.message}"

/-- Reads an address; an id alone is that of a port on the board of `role`. -/
def readAddress (role : Role) (s : String) : Except AddressError Address :=
  if s.toList.contains ':' then (Address.parse s).mapError (.invalid s)
  else if Text.isAllBlank s then .error .blank
  else .ok ⟨role, Text.trim s⟩

/-- What a change did: the session to be saved, if any, and what is reported. -/
structure Change where
  session : Option Session
  report : List String

namespace SessionChange

/-- Whether a change needs a session file that is there. -/
def needsFile : SessionChange → Bool
  | unset _ => true
  | clear .. => true
  | freePort _ => true
  | _ => false

/-- Checks what can be checked before the session is opened. -/
def check : SessionChange → Except Failure Unit
  | assign _ port board _ => ((readAddress board port).mapError fun e => .refused e.message).map fun _ => ()
  | setOptions _ none none => .error (.refused "At least one option must be specified: --invert or --pullup")
  | _ => .ok ()

/-- A line, if the count is not zero. -/
def ifAny (count : Nat) (line : String) : List String := if count = 0 then [] else [line]

/-- The failure of a refused edit. -/
def refusal {α : Type} (r : Except WiringError α) : Except Failure α := r.mapError fun e => .refused e.message

/-- Sets a setting. -/
def applySet (s : Session) (key v : String) : Except Failure Change := do
  match ← (s.settings.setNamed key v).mapError fun e => Failure.refused e.message with
  | some settings => return ⟨some { s with settings := settings }, [s!"{key} = {Text.trim v}"]⟩
  | none =>
    throw (.refused (s!"Unknown setting '{key}'. Expected one of: "
      ++ ", ".intercalate ((Enumerated.all : List SettingKey).map SettingKey.name)))

/-- Unsets a setting. -/
def applyUnset (s : Session) (key : String) : Except Failure Change :=
  match s.settings.unsetNamed key with
  | some settings => .ok ⟨some { s with settings := settings }, ["Reset " ++ key]⟩
  | none => .error (.refused s!"Unknown setting '{key}'")

/-- Selects a board, or none. -/
def applySelectBoard (c : Catalog) (s : Session) (role : Role) (board : Option String) : Except Failure Change := do
  let (t, count) ← refusal (s.selectBoard c role board)
  let done := match board with
    | some id => s!"Selected {role.name} {id}"
    | none => s!"Deselected {role.name}"
  return ⟨some t, done :: ifAny count s!"Cleared {count} assignment(s) on the previous {role.name}"⟩

/-- Wires a port. -/
def applyAssign (c : Catalog) (s : Session) (f : PrinterFunction) (port : Address) (slot : Slot) :
    Except Failure Change := do
  let (t, result) ← refusal (s.assign c f port.role port.port slot)
  let pins := ((t.pins? ⟨f, slot⟩).getD .empty).toList.map fun p => s!"  {p.1.name}: {p.2}"
  match result with
  | .unchanged => return ⟨none, [s!"{f.key} ({slot.name}) already uses {port.toText}"]⟩
  | .assigned => return ⟨some t, s!"Assigned {port.toText} to {f.key} ({slot.name})" :: pins⟩
  | .reassigned previous =>
    return ⟨some t, s!"Moved {f.key} ({slot.name}) from {previous.toText} to {port.toText}" :: pins⟩

/-- Clears slots. -/
def applyClear (s : Session) (f : PrinterFunction) (which : SlotChoice) : Change :=
  let (t, count) := s.clear f which
  if count = 0 then ⟨none, [f.key ++ " has no assigned ports"]⟩
  else ⟨some t, [s!"Cleared {count} port(s) from {f.key}"]⟩

/-- Frees a port. -/
def applyFreePort (s : Session) (port : Address) : Change :=
  match s.freePort port.role port.port with
  | (t, some owner) => ⟨some t, [s!"Freed {port.toText} (was {owner.function.key} {owner.slot.name})"]⟩
  | (_, none) => ⟨none, [port.toText ++ " is not in use"]⟩

/-- Places a function. -/
def applyRelocate (s : Session) (f : PrinterFunction) (role : Role) : Change :=
  let (t, count) := s.relocate f role
  ⟨some t, s!"{f.key} now lives on the {role.name}"
    :: ifAny count s!"Cleared {count} port(s) assigned on the previous board"⟩

/-- Sets those pin options that are given. -/
def applySetOptions (c : Catalog) (s : Session) (f : PrinterFunction) (invert pullup : Option Bool) :
    Except Failure Change := do
  let before := s.optionsOf f
  let o : PinOptions := ⟨invert.getD before.invert, (pullup.map (!·)).getD before.suppressPullup⟩
  let t ← refusal (s.setOptions c f o)
  return ⟨some t, [s!"{f.key}: invert={o.invert} pullup={!o.suppressPullup}"]⟩

/-- Carries out a change. -/
def apply (c : Catalog) (s : Session) : SessionChange → Except Failure Change
  | set key v => applySet s key v
  | unset key => applyUnset s key
  | selectBoard role board => applySelectBoard c s role board
  | assign f port board slot => do
    let a ← (readAddress board port).mapError fun e => Failure.refused e.message
    applyAssign c s f a slot
  | clear f which => .ok (applyClear s f which)
  | freePort port => .ok (applyFreePort s port)
  | relocate f role => .ok (applyRelocate s f role)
  | setOptions f invert pullup => applySetOptions c s f invert pullup

/-- Changes a session file. -/
def run (change : SessionChange) (source : SessionSource) : Action Unit := do
  change.check
  let o ← opening (if change.needsFile then source.openExisting else source.openOrCreate)
  let done ← change.apply o.catalog o.session
  if let some s := done.session then
    o.save s
  .print (Text.unlines done.report)

end SessionChange

/-- Creates a session file. -/
def createSession (mainboard toolboard : Option String) (force : Bool) (source : SessionSource) : Action Unit := do
  if (← .here).files.exists? source.path && !force then
    throw (.refused s!"Session file already exists: {source.path} (use --force to overwrite)")
  else
    let (_, c) ← source.sources.load (← .here)
    let (s, _) ← SessionChange.refusal (Session.empty.selectBoard c .mainboard mainboard)
    let (s, _) ← SessionChange.refusal (s.selectBoard c .toolboard toolboard)
    .replace (saving source.path s)
    .print s!"Created session {source.path}\n"

end PrinterWiring.CommandLine
