import PrinterWiring.Json.Value

/-!
# Writing JSON

Two layouts: compact, and indented by two spaces a level with one item a line, where empty lists
and objects stay on one line. Only quotes, backslashes and control characters are escaped.
-/

namespace PrinterWiring.Json

/-- A digit of a hexadecimal number, in lower case. -/
def hexDigit (n : Nat) : Char := if n < 10 then Char.ofNat (48 + n) else Char.ofNat (87 + n)

/-- How a character stands inside a JSON string. -/
def escape (c : Char) : List Char :=
  if c = '"' then ['\\', '"']
  else if c = '\\' then ['\\', '\\']
  else if c = '\n' then ['\\', 'n']
  else if c = '\r' then ['\\', 'r']
  else if c = '\t' then ['\\', 't']
  else if c.toNat = 8 then ['\\', 'b']
  else if c.toNat = 12 then ['\\', 'f']
  else if c.toNat < 32 then ['\\', 'u', '0', '0', hexDigit (c.toNat / 16), hexDigit (c.toNat % 16)]
  else [c]

/-- A text between its quotes. -/
def quote (s : String) : String := .ofList ('"' :: (s.toList.flatMap escape ++ ['"']))

/-- A key between its quotes. One that cannot be read leaves nothing to write. -/
def quoteKey (key : Option String) : String := quote (key.getD "")

mutual

/-- The value on one line, without blanks. -/
def compact : Json → String
  | .null => "null"
  | .bool b => if b then "true" else "false"
  | .int n => toString n
  | .decimal spelling => spelling
  | .text s => quote s
  | .list items _ => "[" ++ compactItems items ++ "]"
  | .record members _ => "\x7b" ++ compactMembers members ++ "\x7d"
  | .unreadable => "null"
  | .broken => "null"

/-- The items, separated by commas. -/
def compactItems : List Json → String
  | [] => ""
  | [v] => compact v
  | v :: vs => compact v ++ "," ++ compactItems vs

/-- The members, separated by commas. -/
def compactMembers : List (Option String × Json) → String
  | [] => ""
  | [(k, v)] => quoteKey k ++ ":" ++ compact v
  | (k, v) :: ms => quoteKey k ++ ":" ++ compact v ++ "," ++ compactMembers ms

end

/-- A new line indented to a level. -/
def newLine (level : Nat) : String := .ofList ('\n' :: List.replicate (2 * level) ' ')

mutual

/-- The value in the indented layout, standing at a level. -/
def pretty (level : Nat) : Json → String
  | .list [] _ => "[]"
  | .list items _ => "[" ++ prettyItems (level + 1) items ++ newLine level ++ "]"
  | .record [] _ => "\x7b\x7d"
  | .record members _ => "\x7b" ++ prettyMembers (level + 1) members ++ newLine level ++ "\x7d"
  | v => compact v

/-- The items, each on a line of its own. -/
def prettyItems (level : Nat) : List Json → String
  | [] => ""
  | [v] => newLine level ++ pretty level v
  | v :: vs => newLine level ++ pretty level v ++ "," ++ prettyItems level vs

/-- The members, each on a line of its own. -/
def prettyMembers (level : Nat) : List (Option String × Json) → String
  | [] => ""
  | [(k, v)] => newLine level ++ quoteKey k ++ ": " ++ pretty level v
  | (k, v) :: ms => newLine level ++ quoteKey k ++ ": " ++ pretty level v ++ "," ++ prettyMembers level ms

end

end PrinterWiring.Json
