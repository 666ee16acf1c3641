import PrinterWiring.Json.Token

/-!
# Reading JSON

The tokens of a text are put together with a stack of the lists and objects that are still open. The
recursion is on the tokens. When the tokens stop making sense, what is open is closed as it stands
and marked as not whole, so that everything read up to that point is kept.
-/

namespace PrinterWiring.Json

/-- A list or object that is still open, with its items so far, the last first. -/
inductive Frame where
  | list (items : List Json)
  | record (members : List (Option String × Json)) (key : Option String)

/-- Closes everything that is open around a value behind which the text breaks off. -/
def tear (v : Json) : List Frame → Json
  | [] => v
  | .list items :: stack => tear (.list (v :: items).reverse false) stack
  | .record members key :: stack => tear (.record ((key, v) :: members).reverse false) stack

/-- The value that a string is. -/
def ofString : Option String → Json
  | some s => .text s
  | none => .unreadable

mutual

/-- Reads on where a value has to follow. Answers the value and the tokens behind it. -/
def readValue (stack : List Frame) : List Token → Json × List Token
  | .scalar v :: ts => readAfter v stack ts
  | .string s :: ts => readAfter (ofString s) stack ts
  | .openList :: .closeList :: ts => readAfter (arr []) stack ts
  | .openList :: ts => readValue (.list [] :: stack) ts
  | .openRecord :: .closeRecord :: ts => readAfter (.record [] true) stack ts
  | .openRecord :: .string key :: .colon :: ts => readValue (.record [] key :: stack) ts
  | .openRecord :: .string key :: _ => (tear (.record [(key, .broken)] false) stack, [])
  | .openRecord :: _ => (tear (.record [] false) stack, [])
  | _ => (tear .broken stack, [])

/-- Reads on behind a value. -/
def readAfter (v : Json) : List Frame → List Token → Json × List Token
  | [], ts => (v, ts)
  | .list items :: stack, .comma :: ts => readValue (.list (v :: items) :: stack) ts
  | .list items :: stack, .closeList :: ts => readAfter (arr (v :: items).reverse) stack ts
  | .record members key :: stack, .comma :: .string next :: .colon :: ts =>
    readValue (.record ((key, v) :: members) next :: stack) ts
  | .record members key :: stack, .comma :: .string next :: _ =>
    (tear (.record ((next, .broken) :: (key, v) :: members).reverse false) stack, [])
  | .record members key :: stack, .closeRecord :: ts => readAfter (.record ((key, v) :: members).reverse true) stack ts
  | .list items :: stack, _ => (tear (.list (v :: items).reverse false) stack, [])
  | .record members key :: stack, _ => (tear (.record ((key, v) :: members).reverse false) stack, [])

end

/-- The value at the front of a text, and whether nothing but blanks follows it. -/
def readFront (s : String) : Json × Bool :=
  match readValue [] (tokens s.toList) with
  | (v, rest) => (v, rest.isEmpty)

/-- The value that a text is, if it is nothing but one complete value. -/
def read? (s : String) : Option Json :=
  match readFront s with
  | (v, true) => if v.isWhole then some v else none
  | (_, false) => none

end PrinterWiring.Json
