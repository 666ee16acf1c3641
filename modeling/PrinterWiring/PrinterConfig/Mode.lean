import PrinterWiring.Json.Decode
import PrinterWiring.NameError
import PrinterWiring.Text.Blank
import PrinterWiring.Text.Fold

/-!
# Render modes

A strict rendering is refused while something is missing; a rendering with placeholders is a draft and
always succeeds.
-/

namespace PrinterWiring

/-- What to do about missing parts. -/
inductive RenderMode where
  | strict
  | placeholder
deriving DecidableEq

namespace RenderMode

instance : Enumerated RenderMode where
  all := [strict, placeholder]
  nodup := by decide
  mem_all := by intro m; cases m <;> decide

def name : RenderMode → String
  | strict => "strict"
  | placeholder => "placeholder"

/-- Reads a mode, in any letter case; a draft may also be asked for as a preview. -/
def parse (s : String) : Except NameError RenderMode :=
  let wanted := Text.lower (Text.trim s)
  if wanted = "strict" then .ok strict
  else if wanted ∈ ["placeholder", "preview"] then .ok placeholder
  else .error (.renderMode wanted)

def toJson (m : RenderMode) : Json := .text m.name

def decoder : Decoder RenderMode := Decode.choice (Enumerated.named? name)

end RenderMode

end PrinterWiring
