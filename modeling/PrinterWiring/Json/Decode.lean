import PrinterWiring.Json.Reader
import PrinterWiring.Table

/-!
# Decoding JSON values

A decoder reads a value of a type, strictly: no conversions between kinds, no repeated field, no
missing field without a default; members that no field asks for are skipped. A value is looked at
in the order of its text, and the first fault found is the one reported. There are two: the text is
not JSON, or it is JSON of another shape.
-/

namespace PrinterWiring

/-- Why a value could not be decoded. -/
inductive Fault where
  /-- The text is not JSON. -/
  | text
  /-- The text is JSON of another shape. -/
  | shape
deriving DecidableEq

/-- Reads a value of type `α` from JSON. -/
abbrev Decoder (α : Type) := Json → Except Fault α

namespace Decode

/-- The fault of a value that is not of the kind asked for. -/
def misfit : Json → Fault
  | .unreadable => .text
  | .broken => .text
  | _ => .shape

/-- Any text. -/
def text : Decoder String
  | .text s => .ok s
  | v => .error (misfit v)

/-- `true` or `false`. -/
def bool : Decoder Bool
  | .bool b => .ok b
  | v => .error (misfit v)

/-- An integer from zero up to, but not including, a bound. -/
def natBelow (bound : Nat) : Decoder Nat
  | .int n => if 0 ≤ n ∧ n < bound then .ok n.toNat else .error .shape
  | v => .error (misfit v)

/-- An unsigned number of 16 bits. -/
def word16 : Decoder UInt16 := fun v => (natBelow UInt16.size v).map UInt16.ofNat

/-- An unsigned number of 32 bits. -/
def word32 : Decoder UInt32 := fun v => (natBelow UInt32.size v).map UInt32.ofNat

/-- An unsigned number of 64 bits. -/
def word64 : Decoder UInt64 := fun v => (natBelow UInt64.size v).map UInt64.ofNat

/-- `null`, or a value. -/
def optional {α : Type} (d : Decoder α) : Decoder (Option α)
  | .null => .ok none
  | v => (d v).map some

/-- A text that `parse?` understands. -/
def parsed {α : Type} (parse? : String → Option α) : Decoder α := fun v => do
  match parse? (← text v) with
  | some a => .ok a
  | none => .error .shape

/-- One of a closed list of names, as a text or as the only key of an object that maps it to `null`.
A value of any other kind counts as a fault of the text. -/
def choice {α : Type} (named? : String → Option α) : Decoder α
  | .text s =>
    match named? s with
    | some a => .ok a
    | none => .error .shape
  | .record ((key, v) :: others) whole =>
    match key.map named?, v with
    | none, _ => .error .text
    | some none, _ => .error .shape
    | some (some a), .null => if others.isEmpty && whole then .ok a else .error .text
    | some (some _), v => .error (misfit v)
  | _ => .error .text

/-- A list whose items all decode. -/
def list {α : Type} (d : Decoder α) : Decoder (List α)
  | .list items whole => do
    let as ← items.mapM d
    if whole then .ok as else .error .text
  | v => .error (misfit v)

/-- An object that maps keys to values; of several entries for one key the last stays. -/
def table {κ α : Type} [DecidableEq κ] [Enumerated κ] (key? : String → Option κ) (d : Decoder α) :
    Decoder (Table κ α)
  | .record members whole => do
    let t ← members.foldlM (fun t m => do
      match m.1.map key? with
      | none => .error Fault.text
      | some none => .error Fault.shape
      | some (some k) => return t.insert k (← d m.2)) Table.empty
    if whole then .ok t else .error .text
  | v => .error (misfit v)

end Decode

/-- How a value with named fields is read. It may be an object: there is a check for each field, applied in the order of
the text, and the value is made from the members once all of them passed. Or it is the list of the fields in their
order. -/
structure RecordDecoder (α : Type) where
  fields : List (String × (Json → Except Fault Unit))
  build : List (String × Json) → Except Fault α
  /-- Reads the fields from the front of a list, of which is said whether it is whole. What is left of it is answered. -/
  take : Bool → List Json → Except Fault (α × List Json)

namespace RecordDecoder

variable {α β : Type}

instance : Functor RecordDecoder where
  map f r := ⟨r.fields, fun members => (r.build members).map f,
    fun whole items => (r.take whole items).map fun p => (f p.1, p.2)⟩

instance : Seq RecordDecoder where
  seq f r :=
    { fields := f.fields ++ (r ()).fields
      build := fun members => do
        let g ← f.build members
        return g (← (r ()).build members)
      take := fun whole items => do
        let (g, items) ← f.take whole items
        let (a, items) ← (r ()).take whole items
        return (g a, items) }

/-- A field with what to do when it is not there. A list that breaks off does not tell whether it is there. -/
def field (name : String) (d : Decoder α) (missing : Except Fault α) : RecordDecoder α where
  fields := [(name, fun v => (d v).map fun _ => ())]
  build := fun members =>
    match members.lookup name with
    | some v => d v
    | none => missing
  take := fun whole items =>
    match items with
    | v :: items => (d v).map (·, items)
    | [] => if whole then missing.map (·, []) else .error .text

/-- A field that must be there. -/
def required (name : String) (d : Decoder α) : RecordDecoder α := field name d (.error .shape)

/-- A field with a value to take when it is not there. -/
def withDefault (name : String) (d : Decoder α) (otherwise : α) : RecordDecoder α := field name d (.ok otherwise)

/-- A field that may be missing or `null`. -/
def optional (name : String) (d : Decoder α) : RecordDecoder (Option α) :=
  withDefault name (Decode.optional d) none

/-- Checks the members in turn. A field must not come twice; what is no field is skipped, except that its key has
to be read. -/
def check (fields : List (String × (Json → Except Fault Unit))) :
    List String → List (Option String × Json) → Except Fault Unit
  | _, [] => .ok ()
  | _, (none, _) :: _ => .error .text
  | seen, (some key, v) :: members =>
    match fields.lookup key with
    | none => if v.isWhole then check fields seen members else .error .text
    | some passes =>
      if seen.contains key then .error .shape
      else do
        passes v
        check fields (key :: seen) members

/-- Reads an object with the given fields, or the list of them. -/
def decode (r : RecordDecoder α) : Decoder α
  | .record members whole => do
    check r.fields [] members
    if whole then r.build (Json.named members) else .error .text
  | .list items whole => do
    let (a, more) ← r.take whole items
    if whole && more.isEmpty then .ok a else .error .text
  | v => .error (Decode.misfit v)

end RecordDecoder

/-- Decodes the value that a text is. -/
def decodeText {α : Type} (d : Decoder α) (s : String) : Except Fault α := do
  let (v, clean) := Json.readFront s
  let a ← d v
  if clean then .ok a else .error .text

end PrinterWiring
