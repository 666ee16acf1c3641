/-!
# Texts that name nothing

Roles, categories, functions and the other vocabularies are read from text. `NameError` says what was
asked for and what was given instead; the text it carries is the one its message shows.
-/

namespace PrinterWiring

/-- A text that should have named something and does not. -/
inductive NameError where
  | role (given : String)
  | category (given : String)
  | function (given : String)
  | slotChoice (given : String)
  | renderMode (given : String)
  /-- A value outside a list of choices. -/
  | notAmong (given : String) (choices : List String)
  /-- A port address without a colon. -/
  | addressWithoutRole (given : String)
  /-- A port address with nothing behind its colon. -/
  | addressWithoutPort (given : String)
deriving DecidableEq

def NameError.message : NameError → String
  | .role given => s!"Unknown board role '{given}'. Expected 'mainboard' or 'toolboard'"
  | .category given => s!"Unknown port category '{given}'"
  | .function given => s!"Unknown function '{given}'"
  | .slotChoice given => s!"Unknown slot '{given}'. Expected primary, secondary or both"
  | .renderMode given => s!"Unknown render mode '{given}'. Expected strict or placeholder"
  | .notAmong given choices =>
    "Invalid value '" ++ given ++ "'. Expected one of: " ++ ", ".intercalate choices
  | .addressWithoutRole given => s!"Expected '<role>:<port>', got '{given}'"
  | .addressWithoutPort given => s!"Port id cannot be empty in '{given}'"

end PrinterWiring
