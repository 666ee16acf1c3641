import PrinterWiring.Toml.Scalar
import PrinterWiring.Toml.Token

/-!
# Reading TOML

A document is read line by line into a table. A header names the table that the lines after it add to. No
key is given twice; a table that was closed, opened or listed in one way is not added to in another. As in
JSON, lists and tables that are still open stand on a stack and the recursion is on the tokens. Inside brackets and
braces lines may end anywhere but in a key.
-/

namespace PrinterWiring.Toml

/-! ## Keys -/

/-- The parts of a word of a key, `none` standing for a dot. -/
def keyParts? : Word → Option (List (Option String))
  | .quoted s => some [some s]
  | .lines _ => none
  | .bare cs =>
    let isKeyChar (c : Char) : Bool := c.isAlphanum || c = '_' || c = '-'
    let pieces := Text.pieces '.' cs
    if pieces.all (·.all isKeyChar) then
      let parts := pieces.map fun piece => if piece.isEmpty then [] else [some (String.ofList piece)]
      some ([none].intercalate parts)
    else none

/-- The names of a key whose parts alternate with dots. -/
def alternating? : List (Option String) → Option (List String)
  | [some name] => some [name]
  | some name :: none :: rest => (alternating? rest).map (name :: ·)
  | _ => none

/-- How deep values may be nested, and how many names a key may have. -/
def nestingLimit : Nat := 80

/-- The names of a key. -/
def key? (ws : List Word) : Option (List String) := do
  let names ← alternating? (← ws.mapM keyParts?).flatten
  if names.length ≤ nestingLimit then some names else none

/-- The value of words. -/
def value? : List Word → Option Toml
  | [.bare cs] => scalar? cs
  | [.quoted s] => some (.text s)
  | [.lines s] => some (.text s)
  | _ => none

/-! ## Adding to tables -/

/-- Gives an entry of a table another value. -/
def replaced (key : String) (v : Toml) (entries : List (String × Toml)) : List (String × Toml) :=
  entries.map fun e => if e.1 = key then (key, v) else e

/-- Changes what a path leads to; of a list of tables, its last. A table that is not there is made. What is
between braces cannot be changed, and by a dotted key neither what has a header. -/
def change (dotted : Bool) (f : Toml → Option Toml) : List String → Toml → Option Toml
  | [], t => f t
  | name :: path, .table form entries =>
    match entries.lookup name with
    | none => do
      let made ← change dotted f path (.table (if dotted then .dotted else .implied) [])
      return .table form (entries ++ [(name, made)])
    | some (.table inner es) => do
      if inner = .inline ∨ (dotted ∧ inner = .opened) then none
      return .table form (replaced name (← change dotted f path (.table inner es)) entries)
    | some (.list items true) => do
      let last ← items.getLast?
      return .table form (replaced name (.list (items.dropLast ++ [← change dotted f path last]) true) entries)
    | some _ => none
  | _ :: _, _ => none

/-- Adds an entry under a dotted key. -/
def define (key : List String) (v : Toml) (t : Toml) : Option Toml := do
  let name ← key.getLast?
  let add (t : Toml) : Option Toml :=
    match t with
    | .table form entries =>
      if (form = .dotted ↔ key.length = 1) ∨ (entries.lookup name).isSome then none
      else some (.table form (entries ++ [(name, v)]))
    | _ => none
  change true add key.dropLast t

/-- Opens the table of a header. It may be there if only headers of tables inside it were. -/
def openTable (key : List String) (document : Toml) : Option Toml := do
  let name ← key.getLast?
  let add (t : Toml) : Option Toml :=
    match t with
    | .table form entries =>
      match entries.lookup name with
      | none => some (.table form (entries ++ [(name, .table .opened [])]))
      | some (.table .implied es) => some (.table form (replaced name (.table .opened es) entries))
      | some _ => none
    | _ => none
  change false add key.dropLast document

/-- Adds a table to the list of a header. -/
def extendList (key : List String) (document : Toml) : Option Toml := do
  let name ← key.getLast?
  let add (t : Toml) : Option Toml :=
    match t with
    | .table form entries =>
      match entries.lookup name with
      | none => some (.table form (entries ++ [(name, .list [.table .opened []] true)]))
      | some (.list items true) =>
        some (.table form (replaced name (.list (items ++ [.table .opened []]) true) entries))
      | some _ => none
    | _ => none
  change false add key.dropLast document

/-- A table between braces. -/
def closed : Toml → Toml
  | .table _ entries => .table .inline entries
  | t => t

/-! ## Documents -/

/-- A line that is being read: the document before it, the header it stands under, and its key. -/
structure OpenLine where
  document : Toml
  header : List String
  key : List String

/-- The document with the line, whose value is now known. -/
def OpenLine.finish (l : OpenLine) (v : Toml) : Option Toml := change false (define l.key v) l.header l.document

/-- A list, or a table between braces, that is still open. -/
inductive Frame where
  | list (items : List Toml)
  | table (before : Toml) (key : List String)

mutual

/-- Reads on at the beginning of a line. -/
def readLine (document : Toml) (header : List String) : List Token → Option Toml
  | [] => some document
  | .newline :: ts => readLine document header ts
  | .words ws :: .equals :: ts => do
    let key ← key? ws
    readValue ⟨document, header, key⟩ [] ts
  | [.openList _, .openList false, .words ws, .closeList _, .closeList false] => do extendList (← key? ws) document
  | .openList _ :: .openList false :: .words ws :: .closeList _ :: .closeList false :: .newline :: ts => do
    let key ← key? ws
    readLine (← extendList key document) key ts
  | [.openList _, .words ws, .closeList _] => do openTable (← key? ws) document
  | .openList _ :: .words ws :: .closeList _ :: .newline :: ts => do
    let key ← key? ws
    readLine (← openTable key document) key ts
  | _ => none

/-- Reads on where a value, or the end of a list, has to follow. -/
def readValue (l : OpenLine) (stack : List Frame) : List Token → Option Toml
  | .words ws :: ts => do readAfter l (← value? ws) stack ts
  | .openList _ :: ts => if stack.length < nestingLimit then readValue l (.list [] :: stack) ts else none
  | .openTable :: ts => if stack.length < nestingLimit then readEntry l (.table .opened []) stack ts else none
  | .closeList _ :: ts =>
    match stack with
    | .list items :: stack => readAfter l (.list items.reverse false) stack ts
    | _ => none
  | .newline :: ts => if stack.isEmpty then none else readValue l stack ts
  | _ => none

/-- Reads on where an entry, or the end of a table between braces, has to follow. -/
def readEntry (l : OpenLine) (before : Toml) (stack : List Frame) : List Token → Option Toml
  | .newline :: ts => readEntry l before stack ts
  | .closeTable :: ts => readAfter l (closed before) stack ts
  | .words ws :: ts => do readEquals l before (← key? ws) stack ts
  | _ => none

/-- Reads on behind a key between braces. -/
def readEquals (l : OpenLine) (before : Toml) (key : List String) (stack : List Frame) : List Token → Option Toml
  | .newline :: ts => readEquals l before key stack ts
  | .equals :: ts => readValue l (.table before key :: stack) ts
  | _ => none

/-- Reads on behind a value. -/
def readAfter (l : OpenLine) (v : Toml) : List Frame → List Token → Option Toml
  | [], [] => l.finish v
  | [], .newline :: ts => do readLine (← l.finish v) l.header ts
  | stack, .newline :: ts => readAfter l v stack ts
  | .list items :: stack, .comma :: ts => readValue l (.list (v :: items) :: stack) ts
  | .list items :: stack, .closeList _ :: ts => readAfter l (.list (v :: items).reverse false) stack ts
  | .table before key :: stack, .comma :: ts => do readEntry l (← define key v before) stack ts
  | .table before key :: stack, .closeTable :: ts => do
    let table ← define key v before
    readAfter l (closed table) stack ts
  | _, _ => none

end

/-- Reads a document. -/
def read? (s : String) : Option Toml := readLine (.table .opened []) [] (documentTokens s)

end PrinterWiring.Toml
