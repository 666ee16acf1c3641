/-!
# Types whose values can be listed

The nouns of this library are mostly small closed vocabularies: roles, categories, pin names,
printer functions, setting keys. `Enumerated` gives each of them its list, in the one order in which
the library shows and stores them.
-/

namespace PrinterWiring

/-- A type with finitely many values, each listed once. The order of the list is the order in which
values are shown, stored and compared. -/
class Enumerated (κ : Type) [DecidableEq κ] where
  /-- Every value, in order. -/
  all : List κ
  nodup : all.Nodup
  mem_all : ∀ k, k ∈ all

namespace Enumerated

variable {κ : Type} [DecidableEq κ] [Enumerated κ]

/-- The place of a value in the list. -/
def position (k : κ) : Fin (all : List κ).length :=
  ⟨(all : List κ).idxOf k, List.idxOf_lt_length_of_mem (mem_all k)⟩

@[simp] theorem all_position (k : κ) : (all : List κ)[(position k).val] = k :=
  List.getElem_idxOf (position k).isLt

@[simp] theorem position_all (i : Fin (all : List κ).length) : position (all : List κ)[i] = i :=
  Fin.ext (nodup.idxOf_getElem i.val i.isLt)

theorem position_inj {j k : κ} : position j = position k ↔ j = k := by
  constructor
  · intro h
    have same := all_position j
    simp only [h, all_position] at same
    exact same.symm
  · rintro rfl; rfl

/-- The first value of the list with this name, where `name` writes a value. -/
def named? (name : κ → String) (s : String) : Option κ := (all : List κ).find? (name · == s)

end Enumerated

end PrinterWiring
