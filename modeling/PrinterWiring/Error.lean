import PrinterWiring.Board.Basic
import PrinterWiring.Function.Slot

/-!
# Rejected edits

Every way in which an edit of a session, a look-up or a strict rendering can be refused, with the
facts that its message shows. A refusal leaves the session as it was.
-/

namespace PrinterWiring

/-- Why an edit, a look-up or a strict rendering was refused. -/
inductive WiringError where
  /-- The catalog has no such board. -/
  | unknownBoard (id : String)
  /-- No board is selected for the role. -/
  | noBoard (role : Role)
  /-- The selected board has no such port. -/
  | unknownPort (role : Role) (board port : String)
  /-- Another slot has the port. -/
  | portTaken (role : Role) (port : String) (owner : SlotKey)
  /-- The port is of another category than the function needs. -/
  | wrongCategory (function : PrinterFunction) (found : Category) (port : String)
  /-- The function has one port only. -/
  | noSecondary (function : PrinterFunction)
  /-- The function's primary port has to come first. -/
  | primaryMissing (function : PrinterFunction)
  /-- The port does not wire the pin. -/
  | pinNotWired (port : String) (missing : PinName)
  /-- A function is placed on another board than its port. -/
  | misplaced (function : PrinterFunction) (location portRole : Role)
  /-- Fields that a strict rendering needs are not set. -/
  | missingFields (fields : List String)
deriving DecidableEq

namespace WiringError

/-- The short name of an error. -/
def kind : WiringError → String
  | unknownBoard _ => "catalog_miss"
  | noBoard _ => "board_not_selected"
  | unknownPort .. => "unknown_port"
  | portTaken .. => "port_already_used"
  | wrongCategory .. => "category_mismatch"
  | noSecondary _ => "secondary_not_supported"
  | primaryMissing _ => "secondary_without_primary"
  | pinNotWired .. => "attribute_unavailable"
  | misplaced .. => "location_mismatch"
  | missingFields _ => "missing_required_field"

def message : WiringError → String
  | unknownBoard id => s!"unknown board '{id}' (not in catalog)"
  | noBoard role => s!"no {role.name} selected"
  | unknownPort role board port => s!"{role.name} '{board}' has no port '{port}'"
  | portTaken role port owner =>
    s!"port {role.name}:{port} is already used by {owner.function.key} ({owner.slot.name})"
  | wrongCategory f found port =>
    s!"{f.key} needs a {f.category.name} port, but {port} is a {found.name} port"
  | noSecondary f => s!"{f.key} does not support a secondary port"
  | primaryMissing f => s!"{f.key} has no primary port; assign it before adding a secondary"
  | pinNotWired port missing => s!"port {port} has no {missing.name} pin"
  | misplaced f location portRole =>
    s!"{f.key} is placed on the {location.name}, but its port is on the {portRole.name}"
  | missingFields fields => "missing required fields: " ++ ", ".intercalate fields

end WiringError

end PrinterWiring
