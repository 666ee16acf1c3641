import PrinterWiring.PrinterConfig.Render
import PrinterWiring.Session.Restore
import PrinterWiring.Web.Message

/-!
# Previews

A preview renders the session of a document that comes with the request. The request carries a version,
which the answer repeats, so that a client can drop answers that come too late.
-/

namespace PrinterWiring.Web

/-- What a preview is asked for. -/
structure PreviewRequest where
  version : UInt64
  mode : RenderMode
  session : Document
deriving DecidableEq

/-- The fields of a request; unless it says otherwise, a draft is rendered. -/
def PreviewRequest.fields : RecordDecoder PreviewRequest :=
  PreviewRequest.mk <$> .withDefault "version" Decode.word64 0
    <*> .withDefault "mode" RenderMode.decoder .placeholder
    <*> .required "session" Document.decoder

/-- A rendered preview. -/
structure Preview where
  rendered : Rendered
  /-- What of the document could not be restored. -/
  issues : List RestoreIssue
deriving DecidableEq

/-- Restores the session and renders it. -/
def preview (c : Catalog) (r : PreviewRequest) : Except WiringError Preview :=
  let (s, issues) := Session.restore c r.session
  (s.render r.mode).map fun rendered => ⟨rendered, issues⟩

/-- The answer to a request that was rendered. -/
def Preview.toJson (r : PreviewRequest) (p : Preview) : Json := .obj
  [("version", .nat r.version.toNat), ("mode", r.mode.toJson),
   ("files", .obj (p.rendered.texts.map fun file => (file.1, .text file.2))),
   ("warnings", .texts p.rendered.warnings), ("issues", .texts (p.issues.map RestoreIssue.message))]

/-- The fields that an error says are missing. -/
def missingIn : WiringError → List String
  | .missingFields fields => fields
  | _ => []

/-- The answer to a request that could not be rendered. -/
def refusalJson (r : PreviewRequest) (e : WiringError) : Json := .obj <|
  [("version", .nat r.version.toNat), ("error", .text e.message), ("kind", .text e.kind)]
    ++ if (missingIn e).isEmpty then [] else [("details", .texts (missingIn e))]

/-- Answers a preview. -/
def respondPreview (c : Catalog) (r : PreviewRequest) : Response :=
  match preview c r with
  | .ok p => .ok (p.toJson r)
  | .error e => ⟨.unprocessable, some (refusalJson r e)⟩

end PrinterWiring.Web
