import PrinterWiring.Json.Value

/-!
# Requests and responses
-/

namespace PrinterWiring.Web

/-- What a request asks to be done. -/
inductive Method where
  | get
  /-- As `get`, but without the body of the response. -/
  | head
  | post
  /-- Asks which requests a browser may send. -/
  | options
  | other
deriving DecidableEq

/-- The method of a name. -/
def Method.ofName (s : String) : Method :=
  if s = "GET" then get
  else if s = "HEAD" then head
  else if s = "POST" then post
  else if s = "OPTIONS" then options
  else other

/-- A request. -/
structure Request where
  method : Method
  target : String
  contentType : Option String
  body : String
deriving DecidableEq

/-- The status of a response. -/
inductive Status where
  | ok | badRequest | notFound | methodNotAllowed | unsupportedMediaType | unprocessable
deriving DecidableEq

/-- The number of a status. -/
def Status.code : Status → Nat
  | ok => 200
  | badRequest => 400
  | notFound => 404
  | methodNotAllowed => 405
  | unsupportedMediaType => 415
  | unprocessable => 422

/-- A response; the refusal of a malformed request has no body. -/
structure Response where
  status : Status
  body : Option Json

namespace Response

/-- A response without a body. -/
def bare (status : Status) : Response := ⟨status, none⟩

/-- A response that answers the request. -/
def ok (body : Json) : Response := ⟨.ok, some body⟩

end Response

end PrinterWiring.Web
