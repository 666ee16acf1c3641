import PrinterWiring.Text.Fold
import PrinterWiring.Text.Split

/-!
# Media types

A media type is `type/subtype`, where the subtype may end in `+suffix`, followed by parameters that begin
with a semicolon. The parameters are checked for their form and otherwise ignored.
-/

namespace PrinterWiring.Web

/-- Whether a character may stand in a name or an unquoted value. -/
def isTokenChar (c : Char) : Bool := c.isAlphanum || "!#$%&'*+-.^_`|~".toList.contains c

/-- Where the reader of parameters is. -/
inductive ParameterPlace where
  | beforeName | inName | beforeValue | inValue | openedQuote | inQuote | behindQuote
deriving DecidableEq

/-- Reads one character of the parameters. -/
def ParameterPlace.next? (p : ParameterPlace) (c : Char) : Option ParameterPlace :=
  let quotable := 32 ≤ c.toNat && c.toNat < 127
  match p with
  | beforeName => if c = ' ' then some beforeName else if isTokenChar c then some inName else none
  | inName => if c = '=' then some beforeValue else if isTokenChar c then some inName else none
  | beforeValue => if c = '"' then some openedQuote else if isTokenChar c then some inValue else none
  | inValue => if c = ';' then some beforeName else if isTokenChar c then some inValue else none
  | openedQuote => if quotable then some inQuote else none
  | inQuote => if c = '"' then some behindQuote else if quotable then some inQuote else none
  | behindQuote => if c = ';' then some beforeName else if c = ' ' then some behindQuote else none

/-- Whether the parameters may end here. -/
def ParameterPlace.mayEnd : ParameterPlace → Bool
  | beforeName => true
  | beforeValue => true
  | inValue => true
  | behindQuote => true
  | _ => false

/-- Whether a text is a list of parameters. -/
def areParameters (cs : List Char) : Bool := (cs.foldlM ParameterPlace.next? .beforeName).any (·.mayEnd)

/-- A media type without its parameters, in lower case. -/
structure MediaType where
  type : String
  subtype : String
  suffix : Option String
deriving DecidableEq

namespace MediaType

/-- A media type from its type and what stands behind the slash. The last plus sign starts the suffix,
unless nothing stands in front of it. -/
def ofParts (type subtype : List Char) : MediaType :=
  let text (cs : List Char) : String := Text.lower (.ofList cs)
  match Text.cutLast? '+' subtype with
  | some (c :: front, suffix) => ⟨text type, text (c :: front), some (text suffix)⟩
  | _ => ⟨text type, text subtype, none⟩

/-- Reads a media type. -/
def ofText? (s : String) : Option MediaType := do
  let (type, rest) ← Text.cutFirst? '/' s.toList
  let subtype := rest.takeWhile isTokenChar
  if type.isEmpty || !type.all isTokenChar then none
  else
    match rest.dropWhile isTokenChar with
    | [] => some (ofParts type subtype)
    | c :: parameters =>
      if c = ';' && !subtype.isEmpty && areParameters parameters then some (ofParts type subtype) else none

/-- Whether a media type is JSON, or a format built on it. -/
def isJson (m : MediaType) : Bool :=
  m.type = "application" && (m.subtype = "json" || m.suffix = some "json")

end MediaType

end PrinterWiring.Web
