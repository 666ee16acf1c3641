import PrinterWiring.Web.MediaType
import PrinterWiring.Web.Preview
import PrinterWiring.Web.Target

/-!
# The web interface

Boards and functions can be listed and a session can be previewed. The service keeps nothing between
requests; `respond` is a function of the catalog and the request.
-/

namespace PrinterWiring.Web

/-- The version that the service reports. -/
def version : String := "0.4.0"

/-- What a path leads to. -/
inductive Route where
  | health
  | boards
  /-- A single board; its id is still percent-encoded. -/
  | board (segment : String)
  | functions
  | preview
deriving DecidableEq

namespace Route

/-- The route of a path. -/
def ofPath? (path : String) : Option Route :=
  match (Text.pieces '/' path.toList).map String.ofList with
  | ["", "health"] => some health
  | ["", "api", "boards"] => some boards
  | ["", "api", "boards", segment] => if segment.isEmpty then none else some (board segment)
  | ["", "api", "functions"] => some functions
  | ["", "api", "preview"] => some preview
  | _ => none

/-- Whether a route takes requests of a method. -/
def allows : Route → Method → Bool
  | preview, m => m = .post
  | _, m => m = .get || m = .head

end Route

/-- What is told about a board in listings. -/
def boardSummary (b : Board) : Json := .obj
  [("id", .text b.id), ("name", .text b.name), ("manufacturer", .text b.manufacturer), ("role", b.role.toJson),
   ("mcu", .text b.mcu), ("categories", .arr (b.categories.map Category.toJson))]

/-- The answer to a request for something that is not there. -/
def notFound (error : String) (details : Option String) : Response :=
  ⟨.notFound, some (.obj (("error", .text error) :: details.toList.map fun d => ("details", .text d)))⟩

/-- The list of boards, for one role or for all. -/
def respondBoards (c : Catalog) (pairs : List (String × String)) : Response :=
  match parameter? "role" (Enumerated.named? Role.name) pairs with
  | none => .bare .badRequest
  | some role =>
    let boards := match role with
      | some r => c.boardsFor r
      | none => c.boards
    .ok (.obj [("boards", .arr (boards.map boardSummary)), ("count", .nat boards.length)])

/-- A single board. -/
def respondBoard (c : Catalog) (segment : String) : Response :=
  match utf8? (percentDecode segment.toList) with
  | none => .bare .badRequest
  | some id =>
    match c.board id with
    | .ok b => .ok b.toJson
    | .error e => notFound "Board not found" (some e.message)

/-- The list of functions, of one category or of all. -/
def respondFunctions (pairs : List (String × String)) : Response :=
  match parameter? "category" (Enumerated.named? Category.name) pairs with
  | none => .bare .badRequest
  | some category => .ok (.arr ((PrinterFunction.ofCategory category).map PrinterFunction.summary))

/-- Reads the body of a request as JSON. -/
def jsonBody {α : Type} (d : Decoder α) (r : Request) : Except Status α :=
  if (r.contentType.bind MediaType.ofText?).any (·.isJson) then
    (decodeText d r.body).mapError fun fault =>
      match fault with
      | .text => .badRequest
      | .shape => .unprocessable
  else .error .unsupportedMediaType

/-- The answer of a route. -/
def Route.respond (c : Catalog) (r : Request) : Route → Response
  | health => .ok (.obj [("status", .text "healthy"), ("version", .text version), ("boards", .nat c.boards.length)])
  | boards => respondBoards c (queryPairs (Target.ofText r.target).query)
  | board segment => respondBoard c segment
  | functions => respondFunctions (queryPairs (Target.ofText r.target).query)
  | preview =>
    match jsonBody PreviewRequest.fields.decode r with
    | .ok p => respondPreview c p
    | .error status => .bare status

/-- Answers a request. Any page may send any request, so the question for permission is always granted. -/
def respond (c : Catalog) (r : Request) : Response :=
  let answer : Response :=
    match Route.ofPath? (Target.ofText r.target).path with
    | none => notFound "Not found" none
    | some route => if route.allows r.method then route.respond c r else .bare .methodNotAllowed
  match r.method with
  | .options => .bare .ok
  | .head => { answer with body := none }
  | _ => answer

end PrinterWiring.Web
