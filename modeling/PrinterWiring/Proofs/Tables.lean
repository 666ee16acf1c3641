import Mathlib.Logic.Basic
import PrinterWiring.Table

/-!
# Tables, continued

Keys are listed in their order, tables are filled from lists of entries, and a table is known by its entries.
-/

namespace PrinterWiring

theorem Enumerated.pairwise_all {κ : Type} [DecidableEq κ] [Enumerated κ] :
    (all : List κ).Pairwise fun a b => position a < position b := by
  rw [List.pairwise_iff_getElem]
  intro i j hi hj below
  rw [show position (all : List κ)[i] = ⟨i, hi⟩ from position_all ⟨i, hi⟩,
    show position (all : List κ)[j] = ⟨j, hj⟩ from position_all ⟨j, hj⟩]
  exact below

namespace Table

variable {κ α β : Type} [DecidableEq κ] [Enumerated κ]

theorem contains_iff {t : Table κ α} {k : κ} : t.contains k = true ↔ ∃ v, t.get? k = some v := by
  rw [contains, Option.isSome_iff_exists]

/-- The keys that have a value, in order. -/
theorem toList_keys (t : Table κ α) : t.toList.map (·.1) = (Enumerated.all : List κ).filter t.contains := by
  rw [toList]
  induction (Enumerated.all : List κ) with
  | nil => rfl
  | cons k ks ih => cases held : t.get? k <;> simp [contains, held, ih]

theorem get?_put_of_ne {t : Table κ α} {k j : κ} {v : Option α} (other : j ≠ k) : (t.put k v).get? j = t.get? j := by
  rw [get?_put, if_neg other]

theorem put_get? (t : Table κ α) (k : κ) : t.put k (t.get? k) = t := by
  apply ext
  intro j
  rw [get?_put]
  split
  · next same => rw [same]
  · rfl

/-- Values are put at two keys in any order. -/
theorem put_comm (t : Table κ α) {k j : κ} (apart : k ≠ j) (u v : Option α) :
    (t.put k u).put j v = (t.put j v).put k u := by
  apply ext
  intro i
  simp only [get?_put]
  by_cases here : i = j
  · have other : i ≠ k := here ▸ apart.symm
    rw [if_pos here, if_pos here, if_neg other]
  · rw [if_neg here, if_neg here]

private theorem get?_foldl_insert (t u : Table κ α) (ks : List κ) (j : κ) :
    ((ks.filterMap fun k => (t.get? k).map (k, ·)).foldl (fun u p => u.insert p.1 p.2) u).get? j =
      if j ∈ ks then (t.get? j).or (u.get? j) else u.get? j := by
  induction ks generalizing u with
  | nil => rfl
  | cons k ks ih =>
    cases held : t.get? k with
    | none =>
      rw [List.filterMap_cons, held, Option.map_none, ih]
      by_cases same : j = k
      · simp [same, held]
      · simp [same]
    | some v =>
      rw [List.filterMap_cons, held, Option.map_some, List.foldl_cons, ih, get?_insert]
      by_cases same : j = k
      · simp [same, held]
      · simp [same]

/-- Inserting the entries of a table, they take precedence. -/
theorem get?_foldl_insert_toList (t u : Table κ α) (k : κ) :
    (t.toList.foldl (fun u p => u.insert p.1 p.2) u).get? k = (t.get? k).or (u.get? k) := by
  rw [toList, get?_foldl_insert, if_pos (Enumerated.mem_all k)]

end Table

end PrinterWiring
