/-!
# JSON values

A value keeps what decoding can tell apart: an integer from a number with a fraction or an exponent, the order
of an object's members, and repeated keys. What is spelled correctly and stands for nothing has a place too,
because it may be skipped but not read. A value also keeps where a text stopped being JSON, so that a reader that
finds both a wrong value and a broken text can say which of the two comes first: `broken` stands where no value
could be read, and a list or an object is not `whole` when the text breaks off after its last item.
-/

namespace PrinterWiring

/-- A JSON value as it was read, or as it is to be written. -/
inductive Json where
  | null
  | bool (b : Bool)
  /-- A number without fraction and exponent. -/
  | int (n : Int)
  /-- Any other number, as it is spelled. -/
  | decimal (spelling : String)
  | text (s : String)
  | list (items : List Json) (whole : Bool)
  /-- An object. A key with half a surrogate pair is `none`. -/
  | record (members : List (Option String × Json)) (whole : Bool)
  /-- A scalar that stands for nothing: a string with half a surrogate pair, or a number beyond the range of
  double precision. -/
  | unreadable
  /-- The text is not JSON from here on. -/
  | broken
deriving Inhabited

namespace Json

/-- A list with all its items. -/
@[match_pattern] def arr (items : List Json) : Json := .list items true

/-- An object with all its members. -/
def obj (members : List (String × Json)) : Json := .record (members.map fun m => (some m.1, m.2)) true

/-- The members whose keys can be read. -/
def named (members : List (Option String × Json)) : List (String × Json) :=
  members.filterMap fun m => m.1.map (·, m.2)

/-- A natural number. -/
def nat (n : Nat) : Json := .int n

/-- The value, or `null`. -/
def ofOption {α : Type} (write : α → Json) : Option α → Json
  | none => .null
  | some a => write a

/-- A list of texts. -/
def texts (ss : List String) : Json := arr (ss.map .text)

mutual

/-- Whether the text of the value is complete. -/
def isWhole : Json → Bool
  | .list items whole => whole && areWhole items
  | .record members whole => whole && membersWhole members
  | .broken => false
  | _ => true

/-- Whether all the items are complete. -/
def areWhole : List Json → Bool
  | [] => true
  | v :: vs => isWhole v && areWhole vs

/-- Whether the values of all members are complete. -/
def membersWhole : List (Option String × Json) → Bool
  | [] => true
  | (_, v) :: ms => isWhole v && membersWhole ms

end

mutual

/-- Whether the value is complete, every part of it can be read, and lists and objects are nested at most
`levels` deep in it. -/
def isReadable (levels : Nat) : Json → Bool
  | .list items whole => whole && levels ≠ 0 && areReadable (levels - 1) items
  | .record members whole => whole && levels ≠ 0 && membersReadable (levels - 1) members
  | .broken => false
  | .unreadable => false
  | _ => true

/-- Whether all the items are readable. -/
def areReadable (levels : Nat) : List Json → Bool
  | [] => true
  | v :: vs => isReadable levels v && areReadable levels vs

/-- Whether all the members are readable. -/
def membersReadable (levels : Nat) : List (Option String × Json) → Bool
  | [] => true
  | (key, v) :: ms => key.isSome && isReadable levels v && membersReadable levels ms

end

/-- The value of an object's member; of a repeated key the last. -/
def member? (key : String) : Json → Option Json
  | .record members _ => (members.reverse.find? (·.1 == some key)).map (·.2)
  | _ => none

end Json

end PrinterWiring
