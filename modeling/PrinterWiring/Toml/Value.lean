/-!
# TOML values

A document is a table. Of numbers, truth values and dates only the kind is kept. A number may be spelled in a way
that has no value; that is no fault of the document as long as nobody asks for the value. A table remembers how it
came about, because that decides what may still be added to it.
-/

namespace PrinterWiring

/-- How a table came about. -/
inductive TableForm where
  /-- By a header of a table inside it. -/
  | implied
  /-- By a dotted key. -/
  | dotted
  /-- By a header of its own. -/
  | opened
  /-- Between braces. Nothing can be added to it. -/
  | inline
deriving DecidableEq

/-- A TOML value. -/
inductive Toml where
  | text (s : String)
  /-- A number or a truth value. -/
  | scalar
  /-- A number that stands for nothing: one beyond its range, or digits with something else among them. -/
  | unreadable
  /-- A date, a time, or both. -/
  | date
  /-- A list. One of tables may be written a table at a time. -/
  | list (items : List Toml) (ofTables : Bool)
  | table (form : TableForm) (entries : List (String × Toml))
deriving Inhabited

namespace Toml

/-- The text that a value is. -/
def text? : Toml → Option String
  | text s => some s
  | _ => none

mutual

/-- Whether every part of a value can be read. -/
def isReadable : Toml → Bool
  | list items _ => areReadable items
  | table _ entries => entriesReadable entries
  | unreadable => false
  | _ => true

/-- Whether all the items can be read. -/
def areReadable : List Toml → Bool
  | [] => true
  | v :: vs => isReadable v && areReadable vs

/-- Whether the values of all entries can be read. -/
def entriesReadable : List (String × Toml) → Bool
  | [] => true
  | (_, v) :: es => isReadable v && entriesReadable es

end

/-- The entries of a value whose fields have the given names. A table may also be given as the list of
the values of its fields; a date has fields, but none of these. The entries that are passed over have to be
readable; what a list has beyond the fields is not looked at. -/
def fields? (names : List String) : Toml → Option (List (String × Toml))
  | table _ entries => if entriesReadable (entries.filter (·.1 ∉ names)) then some entries else none
  | list items _ => some (names.zip items)
  | date => some []
  | _ => none

/-- Whether a value has nothing in it. -/
def isEmpty : Toml → Bool
  | table _ entries => entries.isEmpty
  | list items _ => items.isEmpty
  | _ => false

/-- The name that a value is: a text, or a table that maps a single key to something empty. -/
def name? : Toml → Option String
  | text s => some s
  | table _ [(key, v)] => if v.isEmpty then some key else none
  | _ => none

end Toml

end PrinterWiring
