import PrinterWiring.Proofs.Catalog.Sound

/-!
# Merging

Entries are merged all together or not at all, and they are if each of them is valid and no id is taken (`Admits`,
`merge_eq_ok`). The boards that they describe are then added to those that are there, and nothing else changes
(`insert_perm`, `foldl_insert_perm`). Together with what holds of every accepted board, this is what can be relied on
after any sequence of readings and mergings of whatever texts (`reached_merges`).
-/

namespace PrinterWiring

/-! ## The ports of an entry -/

/-- The ports that an entry lists under a category. -/
def PortEntries.portsOf (e : PortEntries) : Category → List Port
  | .motor => e.motor.map fun p => ⟨p.id, p.label, .motor, .motor p.pins⟩
  | .heater => e.heater.map fun p => ⟨p.id, p.label, .heater, .simple p.pin⟩
  | .thermistor => e.thermistor.map fun p => ⟨p.id, p.label, .thermistor, .simple p.pin⟩
  | .fan => e.fan.map fun p => ⟨p.id, p.label, .fan, .simple p.pin⟩
  | .endstop => e.endstop.map fun p => ⟨p.id, p.label, .endstop, .simple p.pin⟩
  | .probe => e.probe.map fun p => ⟨p.id, p.label, .probe, .probe p.signal p.servo⟩
  | .misc => e.misc.map fun p => ⟨p.id, p.label, .misc, .simple p.pin⟩

/-- Whether a board is the one that an entry describes: of each category it has the ports that the entry lists, in their
order. -/
structure BoardEntry.Describes (e : BoardEntry) (b : Board) : Prop where
  id : b.id = e.id
  name : b.name = e.name
  manufacturer : b.manufacturer = e.manufacturer
  role : b.role = e.role
  mcu : b.mcu = e.mcu
  ports : ∀ category, b.portsIn category = e.ports.portsOf category

private theorem BoardEntry.describes_board (e : BoardEntry) : e.Describes e.board := by
  refine ⟨rfl, rfl, rfl, rfl, rfl, fun category => ?_⟩
  cases category <;>
    simp [Board.portsIn, BoardEntry.board, PortEntries.toPorts, PortEntries.portsOf, List.filter_map, Function.comp_def]

/-! ## Inserting -/

/-- A board of a new id is added to the others, wherever it is put. -/
theorem insertBoard_perm {b : Board} {cs : List Board} (free : ∀ c ∈ cs, c.id ≠ b.id) :
    (insertBoard b cs).Perm (b :: cs) := by
  induction cs with
  | nil => rfl
  | cons c cs ih =>
    obtain ⟨other, free⟩ := List.forall_mem_cons.1 free
    rw [insertBoard]
    split_ifs with before behind
    · rfl
    · exact ((ih free).cons c).trans (.swap b c cs)
    · exact absurd (String.le_antisymm before behind) other

namespace Catalog

variable {c c' : Catalog} {es : List BoardEntry} {boards : List Board} {b : Board} {id : String}

/-- A board is found by its id. -/
theorem board?_eq_some : c.board? id = some b ↔ b ∈ c.boards ∧ b.id = id := by
  constructor
  · intro found
    exact ⟨List.mem_of_find?_eq_some found, by simpa using List.find?_some found⟩
  · rintro ⟨inside, rfl⟩
    have apart : (c.boards.map (·.id)).Nodup := List.pairwise_map.2 (c.increasing.imp String.ne_of_lt)
    cases found : c.board? b.id with
    | none => simpa using List.find?_eq_none.1 found b inside
    | some d =>
      have same : d.id = b.id := by simpa using List.find?_some found
      rw [List.inj_on_of_nodup_map apart (List.mem_of_find?_eq_some found) inside same]

theorem board?_eq_none : c.board? id = none ↔ ∀ b ∈ c.boards, b.id ≠ id := by
  simp [board?]

/-- Boards that are new and have different ids are added to those that are there. -/
theorem foldl_insert_perm (free : ∀ b ∈ boards, c.board? b.id = none) (apart : (boards.map (·.id)).Nodup) :
    (boards.foldl insert c).boards.Perm (c.boards ++ boards) := by
  induction boards generalizing c with
  | nil => simp
  | cons b boards ih =>
    obtain ⟨new, free⟩ := List.forall_mem_cons.1 free
    obtain ⟨other, apart⟩ := List.nodup_cons.1 apart
    have inserted : (c.insert b).boards.Perm (b :: c.boards) := insertBoard_perm (board?_eq_none.1 new)
    have free' : ∀ d ∈ boards, (c.insert b).board? d.id = none := by
      refine fun d later => board?_eq_none.2 fun a inside same => ?_
      rcases mem_insertBoard inside with rfl | older
      · exact other (List.mem_map.2 ⟨d, later, same.symm⟩)
      · exact board?_eq_none.1 (free d later) a older same
    have added : (b :: c.boards ++ boards).Perm (c.boards ++ b :: boards) := List.perm_middle.symm
    exact (ih free' apart).trans ((inserted.append_right boards).trans added)

/-! ## Merging -/

/-- Whether a catalog takes entries: each of them is valid, and no id is taken, neither by a board that is there nor by
another entry. -/
structure Admits (c : Catalog) (es : List BoardEntry) : Prop where
  valid : ∀ e ∈ es, e.Valid
  free : ∀ e ∈ es, c.board? e.id = none
  apart : (es.map (·.id)).Nodup

theorem admits_cons {e : BoardEntry} :
    c.Admits (e :: es) ↔ e.Valid ∧ c.board? e.id = none ∧ (∀ d ∈ es, e.id ≠ d.id) ∧ c.Admits es := by
  constructor
  · rintro ⟨valid, free, apart⟩
    obtain ⟨other, apart⟩ := List.nodup_cons.1 apart
    refine ⟨valid e List.mem_cons_self, free e List.mem_cons_self, fun d inside same => ?_, ?_⟩
    · exact other (List.mem_map.2 ⟨d, inside, same.symm⟩)
    · exact ⟨(List.forall_mem_cons.1 valid).2, (List.forall_mem_cons.1 free).2, apart⟩
  · rintro ⟨first, new, other, ⟨valid, free, apart⟩⟩
    refine ⟨List.forall_mem_cons.2 ⟨first, valid⟩, List.forall_mem_cons.2 ⟨new, free⟩, List.nodup_cons.2 ⟨?_, apart⟩⟩
    intro taken
    obtain ⟨d, inside, same⟩ := List.mem_map.1 taken
    exact other d inside same.symm

/-- Entries are accepted if they are valid and no two boards share an id. -/
theorem accept_eq_ok {accepted : List Board} :
    c.accept accepted es = .ok boards ↔
      c.Admits es ∧ (∀ e ∈ es, ∀ b ∈ accepted, b.id ≠ e.id) ∧ accepted.reverse ++ es.map (·.board) = boards := by
  induction es generalizing accepted with
  | nil =>
    have admits : c.Admits [] := ⟨nofun, nofun, List.nodup_nil⟩
    simp [accept, admits]
  | cons e es ih =>
    have untaken : (c.board? e.board.id).isSome = false ∧ accepted.any (·.id == e.board.id) = false ↔
        c.board? e.id = none ∧ ∀ b ∈ accepted, b.id ≠ e.id := by
      simp [BoardEntry.board]
    rw [accept, bind_eq_ok, admits_cons, List.forall_mem_cons]
    constructor
    · rintro ⟨b, passes, done⟩
      obtain ⟨valid, rfl⟩ := BoardEntry.toBoard_iff.1 passes
      split at done
      · simp [bind_eq_ok, throw_ne_ok] at done
      · next free =>
        obtain ⟨new, others⟩ := untaken.1 (by simpa using free)
        obtain ⟨admits, apart, rfl⟩ := ih.1 done
        simp only [List.forall_mem_cons] at apart
        exact ⟨⟨valid, new, fun d inside => (apart d inside).1, admits⟩,
          ⟨others, fun d inside => (apart d inside).2⟩, by simp⟩
    · rintro ⟨⟨valid, new, other, admits⟩, ⟨others, apart⟩, rfl⟩
      refine ⟨e.board, BoardEntry.toBoard_iff.2 ⟨valid, rfl⟩, ?_⟩
      rw [if_neg (by simpa using untaken.2 ⟨new, others⟩)]
      refine ih.2 ⟨admits, fun d inside => List.forall_mem_cons.2 ⟨other d inside, apart d inside⟩, by simp⟩

theorem Admits.merged_perm (admits : c.Admits es) :
    ((es.map (·.board)).foldl insert c).boards.Perm (c.boards ++ es.map (·.board)) :=
  foldl_insert_perm (List.forall_mem_map.2 admits.free)
    (by simpa [Function.comp_def, BoardEntry.board] using admits.apart)

/-- Entries are merged iff the catalog takes them, and then the boards that they describe are inserted. -/
theorem merge_eq_ok : c.merge es = .ok c' ↔ c.Admits es ∧ (es.map (·.board)).foldl insert c = c' := by
  simp [merge, map_eq_ok, accept_eq_ok]

/-! ## Calls -/

/-- A call on a catalog, with the text of a catalog file. -/
inductive Call where
  /-- Reads another catalog in its place. -/
  | read (text : String)
  | merge (text : String)

/-- The outcome of a call. -/
def call (c : Catalog) : Call → Except CatalogError Catalog
  | .read text => ofText text
  | .merge text => c.mergeText text

/-- The catalog after a call. One that fails leaves it as it was. -/
def afterCall (c : Catalog) (q : Call) : Catalog :=
  match c.call q with
  | .ok c' => c'
  | .error _ => c

/-- The catalog after calls, beginning with no boards. -/
def reached (calls : List Call) : Catalog := calls.foldl afterCall empty

private theorem reached_append (calls : List Call) (q : Call) :
    reached (calls ++ [q]) = (reached calls).afterCall q := by
  rw [reached, List.foldl_append]
  rfl

private theorem accepted_reached (calls : List Call) : (reached calls).Accepted := by
  induction calls using List.reverseRecOn with
  | nil => exact .empty
  | append_singleton calls q before =>
    rw [reached_append, afterCall]
    split
    · next done =>
      cases q with
      | read text => exact accepted_ofText done
      | merge text => exact before.mergeText done
    · exact before

/-- A file is merged if it is read and the catalog admits its entries. -/
theorem mergeText_eq_ok {s : String} :
    c.mergeText s = .ok c' ↔
      ∃ file, CatalogFile.read s = .ok file ∧ c.Admits file.boards ∧
        (file.boards.map (·.board)).foldl insert c = c' := by
  simp only [mergeText, bind_eq_ok, merge_eq_ok]

/-- What a merge does to a catalog. -/
inductive Merges (c : Catalog) (s : String) (after : Catalog) : Prop where
  /-- It fails, because the text is no catalog file or the catalog does not take its entries, and changes nothing. -/
  | refused {e : CatalogError} (failed : c.mergeText s = .error e)
    (unfit : ∀ file, CatalogFile.read s = .ok file → ¬ c.Admits file.boards) (same : after = c)
  /-- It adds the boards that the entries describe, and those that were there are found as before. -/
  | added {file : CatalogFile} {boards : List Board} (done : c.mergeText s = .ok after)
    (read : CatalogFile.read s = .ok file) (admits : c.Admits file.boards)
    (described : List.Forall₂ BoardEntry.Describes file.boards boards)
    (together : after.boards.Perm (c.boards ++ boards)) (kept : ∀ id b, c.board? id = some b → after.board? id = some b)

private theorem merges_afterCall (c : Catalog) (s : String) : c.Merges s (c.afterCall (.merge s)) := by
  cases done : c.mergeText s with
  | error e =>
    have unfit (file : CatalogFile) (read : CatalogFile.read s = .ok file) : ¬ c.Admits file.boards := by
      intro admits
      exact absurd (done.symm.trans (mergeText_eq_ok.2 ⟨file, read, admits, rfl⟩)) nofun
    have same : c.afterCall (.merge s) = c := by simp [afterCall, call, done]
    exact .refused done unfit same
  | ok after =>
    have same : c.afterCall (.merge s) = after := by simp [afterCall, call, done]
    obtain ⟨file, read, admits, rfl⟩ := mergeText_eq_ok.1 done
    have added : ((file.boards.map (·.board)).foldl insert c).boards.Perm (c.boards ++ file.boards.map (·.board)) :=
      admits.merged_perm
    rw [same]
    refine .added done read admits ?_ added fun id b found => ?_
    · exact List.forall₂_map_right_iff.2 (List.forall₂_same.2 fun e _ => e.describes_board)
    · obtain ⟨inside, named⟩ := board?_eq_some.1 found
      exact board?_eq_some.2 ⟨added.mem_iff.2 (List.mem_append_left _ inside), named⟩

/-- After any calls, every board is found under its own id and is sound, and a further merge changes nothing or adds
exactly the boards of its text. -/
theorem reached_merges (calls : List Call) (s : String) :
    (∀ id b, (reached calls).board? id = some b ↔ b ∈ (reached calls).boards ∧ b.id = id) ∧
      (∀ b ∈ (reached calls).boards, b.Sound) ∧
      (reached calls).Merges s (reached (calls ++ [.merge s])) := by
  refine ⟨fun id b => board?_eq_some, fun b inside => (accepted_reached calls).board_sound inside, ?_⟩
  rw [reached_append]
  exact merges_afterCall (reached calls) s

end Catalog

end PrinterWiring
