import PrinterWiring.Enumerated

/-!
# Tables over listed keys

A `Table κ α` holds at most one value per key. It is fixed by its answers to `get?`
(`Table.ext`), and each operation is described by one such answer: `get?_empty`, `get?_build`,
`get?_put`. `toList` lists the entries in the order of the keys.
-/

namespace PrinterWiring

/-- At most one value for each key. -/
structure Table (κ α : Type) [DecidableEq κ] [Enumerated κ] where
  cells : Vector (Option α) (Enumerated.all : List κ).length

namespace Table

variable {κ α : Type} [DecidableEq κ] [Enumerated κ]

instance [DecidableEq α] : DecidableEq (Table κ α) := fun s t =>
  if h : s.cells = t.cells then
    isTrue (by cases s; cases t; cases h; rfl)
  else
    isFalse fun e => h (e ▸ rfl)

/-- The value held for a key. -/
def get? (t : Table κ α) (k : κ) : Option α := t.cells.get (Enumerated.position k)

/-- The table with the given answers. -/
def build (f : κ → Option α) : Table κ α := ⟨Vector.ofFn fun i => f ((Enumerated.all : List κ).get i)⟩

/-- The table without entries. -/
def empty : Table κ α := build fun _ => none

/-- Sets or removes the value of one key. -/
def put (t : Table κ α) (k : κ) (v : Option α) : Table κ α :=
  ⟨t.cells.set (Enumerated.position k).val v (Enumerated.position k).isLt⟩

/-- Sets the value of a key. -/
def insert (t : Table κ α) (k : κ) (v : α) : Table κ α := t.put k (some v)

/-- Removes the value of a key. -/
def erase (t : Table κ α) (k : κ) : Table κ α := t.put k none

/-- Whether the key has a value. -/
def contains (t : Table κ α) (k : κ) : Bool := (t.get? k).isSome

/-- Keeps the entries that pass the test. -/
def filter (t : Table κ α) (keep : κ → α → Bool) : Table κ α :=
  build fun k => (t.get? k).filter (keep k)

/-- The entries, in the order of the keys. -/
def toList (t : Table κ α) : List (κ × α) :=
  (Enumerated.all : List κ).filterMap fun k => (t.get? k).map (k, ·)

/-- The values, in the order of the keys. -/
def values (t : Table κ α) : List α := t.toList.map (·.2)

/-- Inserts the pairs in turn: of two values for one key the later stays. -/
def ofList (pairs : List (κ × α)) : Table κ α := pairs.foldl (fun t p => t.insert p.1 p.2) empty

/-- Whether there is no entry. -/
def isEmpty (t : Table κ α) : Bool := t.toList.isEmpty

instance : Inhabited (Table κ α) := ⟨empty⟩

theorem get_eq_getElem {n : Nat} (cells : Vector α n) (i : Fin n) : cells.get i = cells[i.val] := rfl

@[simp] theorem get?_build (f : κ → Option α) (k : κ) : (build f).get? k = f k := by
  simp [build, get?, get_eq_getElem]

@[simp] theorem get?_empty (k : κ) : (empty : Table κ α).get? k = none := by
  simp [empty]

/-- A value that is put at a key is there, and nothing else changes. -/
theorem get?_put (t : Table κ α) (k j : κ) (v : Option α) :
    (t.put k v).get? j = if j = k then v else t.get? j := by
  simp only [put, get?, get_eq_getElem, Vector.getElem_set, Fin.val_inj, Enumerated.position_inj, eq_comm]

@[simp] theorem get?_put_self (t : Table κ α) (k : κ) (v : Option α) : (t.put k v).get? k = v := by
  simp [get?_put]

theorem get?_insert (t : Table κ α) (k j : κ) (v : α) :
    (t.insert k v).get? j = if j = k then some v else t.get? j := get?_put ..

theorem get?_erase (t : Table κ α) (k j : κ) :
    (t.erase k).get? j = if j = k then none else t.get? j := get?_put ..

@[simp] theorem get?_filter (t : Table κ α) (keep : κ → α → Bool) (k : κ) :
    (t.filter keep).get? k = (t.get? k).filter (keep k) := get?_build ..

theorem get?_all (t : Table κ α) (i : Fin (Enumerated.all : List κ).length) :
    t.get? ((Enumerated.all : List κ).get i) = t.cells.get i :=
  congrArg t.cells.get (Enumerated.position_all i)

/-- Two tables with the same answers are equal. -/
theorem ext {s t : Table κ α} (h : ∀ k, s.get? k = t.get? k) : s = t := by
  obtain ⟨s⟩ := s
  obtain ⟨t⟩ := t
  congr
  apply Vector.ext
  intro i hi
  have same := h ((Enumerated.all : List κ).get ⟨i, hi⟩)
  rwa [get?_all, get?_all] at same

theorem mem_toList {t : Table κ α} {k : κ} {v : α} : (k, v) ∈ t.toList ↔ t.get? k = some v := by
  simp only [toList, List.mem_filterMap, Option.map_eq_some_iff, Prod.mk.injEq]
  constructor
  · rintro ⟨_, _, _, h, rfl, rfl⟩; exact h
  · intro h; exact ⟨k, Enumerated.mem_all k, v, h, rfl, rfl⟩

end Table

end PrinterWiring
