import PrinterWiring.Json.Token
import PrinterWiring.Text.Split

/-!
# Request targets

The target of a request is a path and, behind a question mark, a query: `key=value` pieces separated by
ampersands. In both a byte may be written as a percent sign with two hexadecimal digits; in a query a
plus sign is a space. A percent sign without two digits stands for itself.
-/

namespace PrinterWiring.Web

/-- The bytes that a percent-encoded text stands for. -/
def percentDecode : List Char → List UInt8
  | [] => []
  | '%' :: high :: low :: cs =>
    match Json.hexValue? high, Json.hexValue? low with
    | some h, some l => UInt8.ofNat (16 * h + l) :: percentDecode cs
    | _, _ => String.utf8EncodeChar '%' ++ percentDecode (high :: low :: cs)
  | c :: cs => String.utf8EncodeChar c ++ percentDecode cs
termination_by cs => cs.length

/-- The text that some bytes encode, if they are UTF-8. -/
def utf8? (bytes : List UInt8) : Option String := String.fromUTF8? ⟨bytes.toArray⟩

/-- A piece of a query as text. One that is not UTF-8 reads as the replacement character. -/
def formText (cs : List Char) : String :=
  (utf8? (percentDecode (cs.map fun c => if c = '+' then ' ' else c))).getD "\uFFFD"

/-- The pairs of a query. Empty pieces are skipped; a piece without `=` has an empty value. -/
def queryPairs (query : String) : List (String × String) :=
  ((Text.pieces '&' query.toList).filter (!·.isEmpty)).map fun piece =>
    match Text.cutFirst? '=' piece with
    | some (key, value) => (formText key, formText value)
    | none => (formText piece, "")

/-- The value of an optional parameter, given at most once; `none` if the query is wrong. Other
parameters are passed over. -/
def parameter? {α : Type} (key : String) (named? : String → Option α) (pairs : List (String × String)) :
    Option (Option α) :=
  match pairs.filter (·.1 == key) with
  | [] => some none
  | [(_, value)] => (named? value).map some
  | _ => none

/-- A path with its query. -/
structure Target where
  path : String
  query : String
deriving DecidableEq

/-- Whether a character may stand in the scheme of a target. -/
def isSchemeChar (c : Char) : Bool := c.isAlphanum || "+-.~".toList.contains c

/-- A target without the scheme and the host, which it may name in front of the path. -/
def withoutHost (cs : List Char) : List Char :=
  match cs.dropWhile isSchemeChar with
  | ':' :: '/' :: '/' :: rest => rest.dropWhile fun c => c ≠ '/' && c ≠ '?'
  | _ => cs

/-- Reads a target. What follows a number sign is not sent to a server. -/
def Target.ofText (s : String) : Target :=
  let sent := String.ofList (withoutHost (s.toList.takeWhile (· ≠ '#')))
  match Text.splitFirst? '?' sent with
  | some (path, query) => ⟨path, query⟩
  | none => ⟨sent, ""⟩

end PrinterWiring.Web
