import PrinterWiring.Proofs.Catalog.Merging

/-!
# Joining

One catalog file with the boards of two is merged as the two are, one after the other, with the same outcome
(`merge_append`): what the catalog of the first file has taken is what the second may not repeat. In which order
entries are merged does not matter to the catalog that they lead to (`merge_perm`), and entries that are all valid fail
only because an id is contested (`merge_fails_iff`), which does not depend on their order either.
-/

namespace PrinterWiring

namespace Catalog

variable {c c' : Catalog} {es fs : List BoardEntry} {id : String}

/-- Catalogs are told apart by their boards, whatever the order in which these are given. -/
theorem eq_of_perm (same : c.boards.Perm c'.boards) : c = c' := by
  have equal : c.boards = c'.boards := by
    refine same.eq_of_pairwise ?_ c.increasing c'.increasing
    intro a b _ _ before behind
    exact absurd (String.lt_trans before behind) (String.lt_irrefl a.id)
  cases c
  cases c'
  cases equal
  rfl

/-! ## One file after the other -/

private theorem isSome_board?_insert (c : Catalog) (b : Board) (id : String) :
    ((c.insert b).board? id).isSome = (b.id == id || (c.board? id).isSome) := by
  have general (cs : List Board) : (insertBoard b cs).any (·.id == id) = (b.id == id || cs.any (·.id == id)) := by
    induction cs with
    | nil => rfl
    | cons d cs ih =>
      rw [insertBoard]
      split_ifs with before behind
      · rfl
      · rw [List.any_cons, ih, List.any_cons, Bool.or_left_comm]
      · have same : b.id = d.id := String.le_antisymm behind before
        simp [same]
  rw [board?, board?, List.isSome_find?, List.isSome_find?]
  exact general c.boards

private theorem isSome_board?_foldl_insert (c : Catalog) (boards : List Board) (id : String) :
    ((boards.foldl insert c).board? id).isSome = ((c.board? id).isSome || boards.any (·.id == id)) := by
  induction boards generalizing c with
  | nil => simp
  | cons b boards ih =>
    rw [List.foldl_cons, ih, isSome_board?_insert, List.any_cons, ← Bool.or_assoc, Bool.or_comm (b.id == id)]

/-- It makes no difference whether earlier boards are in the catalog or were accepted before. -/
theorem accept_after (c : Catalog) (earlier accepted : List Board) (es : List BoardEntry) :
    c.accept (accepted ++ earlier.reverse) es =
      ((earlier.foldl insert c).accept accepted es).map (earlier ++ ·) := by
  induction es generalizing accepted with
  | nil => simp [accept, Except.map]
  | cons e es ih =>
    rw [accept, accept]
    cases e.toBoard with
    | error err => rfl
    | ok b =>
      -- Whether an id is taken does not depend on which of the two holds the earlier boards.
      have taken : ((c.board? b.id).isSome || (accepted ++ earlier.reverse).any (·.id == b.id)) =
          (((earlier.foldl insert c).board? b.id).isSome || accepted.any (·.id == b.id)) := by
        rw [isSome_board?_foldl_insert, List.any_append, List.any_reverse, Bool.or_assoc,
          Bool.or_comm (accepted.any _)]
      show (if _ then _ else _) = Except.map _ (if _ then _ else _)
      rw [taken]
      split
      · rfl
      · exact ih (b :: accepted)

private theorem accept_append (c : Catalog) (accepted : List Board) (es fs : List BoardEntry) :
    c.accept accepted (es ++ fs) = c.accept accepted es >>= fun boards => c.accept boards.reverse fs := by
  induction es generalizing accepted with
  | nil =>
    show _ = c.accept accepted.reverse.reverse fs
    rw [List.reverse_reverse, List.nil_append]
  | cons e es ih =>
    rw [List.cons_append, accept, accept]
    cases e.toBoard with
    | error err => rfl
    | ok b =>
      show (if _ then _ else _) = Except.bind (if _ then _ else _) _
      split
      · rfl
      · exact ih (b :: accepted)

/-- Entries that follow others are merged into the catalog that the others lead to. -/
theorem merge_append (c : Catalog) (es fs : List BoardEntry) : c.merge (es ++ fs) = c.merge es >>= (·.merge fs) := by
  rw [merge, merge, accept_append]
  cases c.accept [] es with
  | error err => rfl
  | ok boards =>
    show (c.accept boards.reverse fs).map _ = (boards.foldl insert c).merge fs
    have shifted := accept_after c boards [] fs
    rw [List.nil_append] at shifted
    rw [shifted, merge]
    cases (boards.foldl insert c).accept [] fs with
    | error err => rfl
    | ok later =>
      show Except.ok ((boards ++ later).foldl insert c) = _
      rw [List.foldl_append]
      rfl

/-! ## The order of entries -/

/-- Whether entries are admitted does not depend on their order. -/
theorem Admits.perm (admits : c.Admits es) (same : es.Perm fs) : c.Admits fs where
  valid e inside := admits.valid e (same.mem_iff.2 inside)
  free e inside := admits.free e (same.mem_iff.2 inside)
  apart := (same.map _).nodup_iff.1 admits.apart

/-- Entries lead to the same catalog in any order. -/
theorem merge_perm (same : es.Perm fs) (done : c.merge es = .ok c') : c.merge fs = .ok c' := by
  obtain ⟨admits, rfl⟩ := merge_eq_ok.1 done
  refine merge_eq_ok.2 ⟨admits.perm same, eq_of_perm ?_⟩
  have together : (c.boards ++ fs.map (·.board)).Perm (c.boards ++ es.map (·.board)) :=
    (same.symm.map _).append_left c.boards
  exact (admits.perm same).merged_perm.trans (together.trans admits.merged_perm.symm)

/-! ## Contested ids -/

/-- Whether an id is contested: more than one board has it, of those that are there and those that entries describe. -/
def Contested (c : Catalog) (es : List BoardEntry) (id : String) : Prop :=
  2 ≤ (c.boards.map (·.id) ++ es.map (·.id)).count id

private theorem Contested.perm (contested : c.Contested es id) (same : es.Perm fs) : c.Contested fs id := by
  unfold Contested at contested ⊢
  rwa [((same.map (·.id)).append_left (c.boards.map (·.id))).count_eq id] at contested

/-- Valid entries are taken unless they contest an id. -/
theorem admits_iff_uncontested (valid : ∀ e ∈ es, e.Valid) : c.Admits es ↔ ∀ id, ¬ c.Contested es id := by
  have here : (c.boards.map (·.id)).Nodup := List.pairwise_map.2 (c.increasing.imp String.ne_of_lt)
  have uncontested : (∀ id, ¬ c.Contested es id) ↔ (c.boards.map (·.id) ++ es.map (·.id)).Nodup := by
    rw [List.nodup_iff_count_le_one]
    exact forall_congr' fun id => Nat.not_lt
  rw [uncontested, List.nodup_append]
  constructor
  · rintro ⟨_, free, apart⟩
    refine ⟨here, apart, ?_⟩
    intro taken inside id new same
    obtain ⟨b, held, rfl⟩ := List.mem_map.1 inside
    obtain ⟨e, listed, rfl⟩ := List.mem_map.1 new
    exact board?_eq_none.1 (free e listed) b held same
  · rintro ⟨_, apart, other⟩
    refine ⟨valid, ?_, apart⟩
    intro e listed
    refine board?_eq_none.2 fun b held same => ?_
    exact other b.id (List.mem_map_of_mem held) e.id (List.mem_map_of_mem listed) same

/-- Valid entries are refused for an id that is there twice, and for nothing else. -/
theorem accept_eq_error (valid : ∀ e ∈ es, e.Valid) {accepted : List Board} {err : CatalogError}
    (failed : c.accept accepted es = .error err) :
    ∃ id, err = .repeatedBoard id ∧ 2 ≤ (c.boards.map (·.id) ++ accepted.map (·.id) ++ es.map (·.id)).count id := by
  induction es generalizing accepted with
  | nil => simp [accept] at failed
  | cons e es ih =>
    obtain ⟨first, valid⟩ := List.forall_mem_cons.1 valid
    rw [accept, BoardEntry.toBoard_iff.2 ⟨first, rfl⟩] at failed
    change (if _ then _ else _) = _ at failed
    split at failed
    · next taken =>
      cases failed
      refine ⟨e.id, rfl, ?_⟩
      have before : e.id ∈ c.boards.map (·.id) ++ accepted.map (·.id) := by
        simpa [BoardEntry.board, board?, List.mem_map] using taken
      have once : 0 < (c.boards.map (·.id) ++ accepted.map (·.id)).count e.id := List.count_pos_iff.2 before
      rw [List.count_append, List.map_cons, List.count_cons_self]
      omega
    · obtain ⟨id, rfl, twice⟩ := ih valid failed
      refine ⟨id, rfl, ?_⟩
      simp only [List.map_cons, List.count_append, List.count_cons, BoardEntry.board] at twice ⊢
      omega

/-- Valid entries are refused because of a contested id, and only for that. -/
theorem merge_eq_error (valid : ∀ e ∈ es, e.Valid) {err : CatalogError} (failed : c.merge es = .error err) :
    ∃ id, err = .repeatedBoard id ∧ c.Contested es id := by
  rw [merge] at failed
  cases answer : c.accept [] es with
  | ok boards => simp [answer, Except.map] at failed
  | error e =>
    simp only [answer, Except.map, Except.error.injEq] at failed
    obtain ⟨id, named, twice⟩ := accept_eq_error valid answer
    rw [List.map_nil, List.append_nil] at twice
    exact ⟨id, failed ▸ named, twice⟩

/-- Valid entries are refused just if an id is contested. -/
theorem merge_fails_iff (valid : ∀ e ∈ es, e.Valid) :
    (∃ err, c.merge es = .error err) ↔ ∃ id, c.Contested es id := by
  constructor
  · rintro ⟨err, failed⟩
    obtain ⟨id, _, contested⟩ := merge_eq_error valid failed
    exact ⟨id, contested⟩
  · rintro ⟨id, contested⟩
    cases answer : c.merge es with
    | error err => exact ⟨err, rfl⟩
    | ok c' => exact absurd contested ((admits_iff_uncontested valid).1 (merge_eq_ok.1 answer).1 id)

/-! ## Two files -/

/-- The catalog after two catalog files have been merged one after the other. -/
def mergeBoth (c : Catalog) (s t : String) : Except CatalogError Catalog := c.mergeText s >>= (·.mergeText t)

/-- Whether a text is a catalog file that lists some entries. -/
def Lists (s : String) (es : List BoardEntry) : Prop := ∃ file, CatalogFile.read s = .ok file ∧ file.boards = es

/-- To merge a file is to merge what it lists. -/
theorem Lists.mergeText {s : String} (lists : Lists s es) (c : Catalog) : c.mergeText s = c.merge es := by
  obtain ⟨file, read, rfl⟩ := lists
  rw [Catalog.mergeText, read]
  rfl

private theorem Lists.mergeBoth {s t : String} (first : Lists s es) (second : Lists t fs) (c : Catalog) :
    c.mergeBoth s t = c.merge (es ++ fs) := by
  rw [Catalog.mergeBoth, merge_append, first.mergeText]
  exact congrArg _ (funext second.mergeText)

private theorem lists_of_mergeText {s : String} (done : c.mergeText s = .ok c') : ∃ es, Lists s es := by
  obtain ⟨file, read, _⟩ := mergeText_eq_ok.1 done
  exact ⟨file.boards, file, read, rfl⟩

/-- What it means that the order of two catalog files does not matter to a catalog. -/
structure Independent (c : Catalog) (s t : String) : Prop where
  /-- If they are merged in one order, they are in the other, and lead to the same catalog. -/
  swapped : ∀ c', c.mergeBoth s t = .ok c' → c.mergeBoth t s = .ok c'
  /-- One file with the entries of both has the outcome of the two. -/
  joined : ∀ es fs st, Lists s es → Lists t fs → Lists st (es ++ fs) → c.mergeText st = c.mergeBoth s t
  /-- If there is nothing wrong with any entry, they fail iff an id is contested. -/
  collision : ∀ es fs, Lists s es → Lists t fs → (∀ e ∈ es ++ fs, e.Valid) →
    ((∃ err, c.mergeBoth s t = .error err) ↔ ∃ id, c.Contested (es ++ fs) id)
  /-- And then they fail in either order and as one file, each time with an id that is contested. -/
  together : ∀ es fs err, Lists s es → Lists t fs → (∀ e ∈ es ++ fs, e.Valid) → c.mergeBoth s t = .error err →
    ∃ i j, c.Contested (es ++ fs) i ∧ c.Contested (es ++ fs) j ∧ err = .repeatedBoard i ∧
      c.mergeBoth t s = .error (.repeatedBoard j) ∧
      ∀ st, Lists st (es ++ fs) → c.mergeText st = .error (.repeatedBoard i)

/-- Two catalog files are merged in either order and as one, with one outcome. -/
theorem independent (c : Catalog) (s t : String) : c.Independent s t where
  swapped := by
    intro c' done
    obtain ⟨between, first, second⟩ := bind_eq_ok.1 done
    obtain ⟨es, es_listed⟩ := lists_of_mergeText first
    obtain ⟨fs, fs_listed⟩ := lists_of_mergeText second
    rw [es_listed.mergeBoth fs_listed] at done
    rw [fs_listed.mergeBoth es_listed]
    exact merge_perm List.perm_append_comm done
  joined := by
    intro es fs st es_listed fs_listed all_listed
    rw [es_listed.mergeBoth fs_listed, all_listed.mergeText]
  collision := by
    intro es fs es_listed fs_listed valid
    rw [es_listed.mergeBoth fs_listed]
    exact merge_fails_iff valid
  together := by
    intro es fs err es_listed fs_listed valid failed
    rw [es_listed.mergeBoth fs_listed] at failed
    obtain ⟨i, rfl, contested⟩ := merge_eq_error valid failed
    have swap : (es ++ fs).Perm (fs ++ es) := List.perm_append_comm
    have valid' : ∀ e ∈ fs ++ es, e.Valid := fun e inside => valid e (swap.mem_iff.2 inside)
    -- The other order may name another of the contested ids: it comes to them in its own order.
    obtain ⟨err, failed'⟩ := (merge_fails_iff valid').2 ⟨i, contested.perm swap⟩
    obtain ⟨j, rfl, contested'⟩ := merge_eq_error valid' failed'
    refine ⟨i, j, contested, contested'.perm swap.symm, rfl, ?_, ?_⟩
    · rw [fs_listed.mergeBoth es_listed, failed']
    · intro st all_listed
      rw [all_listed.mergeText, failed]

end Catalog

end PrinterWiring
