import PrinterWiring.Catalog.Builtin
import PrinterWiring.Proofs.Session.Pins

/-!
# What a restoration accounts for

A restored session has every fact of its document in force or the fact is reported, but for one case: of several
records for one slot only the last one counts, and those before it go without a report (`restore_accounts`,
`repeatedFan_lost`). What was restored once is restored from its own document as it is, with nothing left to report
(`restore_toDocument_restore`).
-/

namespace PrinterWiring

/-- Some issue is about a fact. -/
def Reported (issues : List RestoreIssue) (fact : FactName) : Prop := ∃ i ∈ issues, i.fact = fact

/-- A slot has the port that a record names for it, up to the letter case of its id. -/
def Session.Holds (s : Session) (p : PortRecord) : Prop :=
  ∃ a, s.port? p.key = some a ∧ a.role = p.role ∧ Text.SameLetters a.port p.port

/-- What becomes of the facts of a document: options and settings are in force, and so is each board and each location
that is not reported. Of the records for a slot this holds of the last one. -/
structure Accounted (d : Document) (s : Session) (issues : List RestoreIssue) : Prop where
  boards : ∀ role id, d.boards.get? role = some id → s.board? role = some id ∨ Reported issues (.board role)
  latest : ∀ k p, (d.records.filter (·.key = k)).getLast? = some p → s.Holds p ∨ Reported issues (.port k)
  locations : ∀ f role, d.locations.get? f = some role → s.locations.get? f = some role ∨ Reported issues (.location f)
  options : ∀ f o, d.options.get? f = some o → s.optionsOf f = o
  settings : s.settings = d.settings

theorem Reported.grown {issues more : List RestoreIssue} {fact : FactName} (reported : Reported issues fact)
    (kept : issues <+: more) : Reported more fact := by
  obtain ⟨i, listed, about⟩ := reported
  exact ⟨i, kept.subset listed, about⟩

theorem Reported.last {issues : List RestoreIssue} {fact : FactName} (e : WiringError) :
    Reported (issues ++ [⟨fact, e⟩]) fact :=
  ⟨⟨fact, e⟩, List.mem_append_right _ (List.mem_singleton.mpr rfl), rfl⟩

/-- The last step about something decides. -/
private theorem foldl_decided {σ α : Type} {step : σ → α → σ} {as : List α} (about : α → Prop) (P : σ → Prop)
    (own : ∀ s, ∀ a ∈ as, about a → P (step s a)) (keep : ∀ s, ∀ a ∈ as, ¬ about a → P s → P (step s a))
    (given : ∃ a ∈ as, about a) (s : σ) : P (as.foldl step s) := by
  induction as using List.reverseRecOn with
  | nil => simp at given
  | append_singleton before a ih =>
    have last : a ∈ before ++ [a] := List.mem_append_right _ (List.mem_singleton.mpr rfl)
    rw [List.foldl_concat]
    by_cases here : about a
    · exact own _ a last here
    · refine keep _ a last here (ih ?_ ?_ ?_)
      · exact fun s b inside => own s b (List.mem_append_left _ inside)
      · exact fun s b inside => keep s b (List.mem_append_left _ inside)
      · obtain ⟨b, inside, there⟩ := given
        rcases List.mem_append.mp inside with earlier | same
        · exact ⟨b, earlier, there⟩
        · exact absurd (List.mem_singleton.mp same ▸ there) here

namespace Session

/-- After an assignment that goes through, also one that changes nothing, the slot has the port. -/
theorem holds_of_assign {c : Catalog} {s t : Session} {p : PortRecord} {result : AssignResult}
    (done : s.assign c p.function p.role p.port p.slot = .ok (t, result)) : t.Holds p := by
  simp only [assign_eq, bind_eq_ok] at done
  obtain ⟨_, _, port, offers, claimed⟩ := done
  obtain ⟨_, b, _, _, found, _⟩ := offered_ok.mp offers
  have letters := Board.port?_sameLetters found
  unfold claim at claimed
  cases owned : s.registry.owner? p.role port.id with
  | some owner =>
    simp only [owned] at claimed
    split_ifs at claimed with own
    cases claimed
    obtain ⟨a, held, role, same⟩ := port?_of_owner? owned
    subst own
    exact ⟨a, held, role, same.trans letters⟩
  | none =>
    simp only [owned, bind_eq_ok] at claimed
    obtain ⟨pins, _, same⟩ := claimed
    cases same
    exact ⟨⟨p.role, port.id⟩, by rw [wire_port?]; exact if_pos rfl, rfl, letters⟩

end Session

namespace Restoration

variable {c : Catalog} {d : Document}

/-! ## One step -/

private theorem take_issues {α : Type} (r : Restoration) (fact : FactName) (x : Except WiringError (Session × α)) :
    r.issues <+: (r.take fact x).issues := by
  cases x with
  | ok y => exact List.prefix_rfl
  | error e => exact List.prefix_append ..

private theorem board_issues (r : Restoration) (role : Role) : r.issues <+: (r.board c d role).issues := by
  unfold Restoration.board
  cases d.boards.get? role with
  | none => exact List.prefix_rfl
  | some id => exact take_issues ..

private theorem record_issues (r : Restoration) (p : PortRecord) : r.issues <+: (r.record c p).issues := take_issues ..

private theorem location_issues (r : Restoration) (p : PrinterFunction × Role) :
    r.issues <+: (r.location p).issues := by
  unfold Restoration.location
  cases r.session.port? ⟨p.1, .primary⟩ with
  | none => exact List.prefix_rfl
  | some port =>
    simp only
    split_ifs
    · exact List.prefix_rfl
    · exact List.prefix_append ..

/-- The board of a role is selected, or it is reported why not. -/
theorem board_decided (r : Restoration) {role : Role} {id : String} (given : d.boards.get? role = some id) :
    (r.board c d role).session.board? role = some id ∨ Reported (r.board c d role).issues (.board role) := by
  simp only [Restoration.board, given]
  cases done : r.session.selectBoard c role (some id) with
  | error e => exact .inr (.last e)
  | ok x =>
    obtain ⟨t, n⟩ := x
    obtain ⟨_, rfl⟩ := Session.selectBoard_ok_iff.mp ⟨n, done⟩
    left
    show (if r.session.board? role = some id then r.session
      else r.session.swapBoard role (some id)).board? role = some id
    split_ifs with held
    · exact held
    · rw [Session.swapBoard_board?, if_pos rfl]

private theorem board_board?_of_ne (r : Restoration) {role other : Role} (apart : other ≠ role) :
    (r.board c d role).session.board? other = r.session.board? other := by
  unfold Restoration.board
  cases d.boards.get? role with
  | none => rfl
  | some id =>
    simp only
    cases done : r.session.selectBoard c role (some id) with
    | error e => rfl
    | ok x =>
      obtain ⟨t, n⟩ := x
      obtain ⟨_, rfl⟩ := Session.selectBoard_ok_iff.mp ⟨n, done⟩
      show (if r.session.board? role = some id then r.session else r.session.swapBoard role (some id)).board? other = _
      split_ifs
      · rfl
      · rw [Session.swapBoard_board?, if_neg apart]

/-- A record is in force, or it is reported why not. -/
theorem record_decided (c : Catalog) (r : Restoration) (p : PortRecord) :
    (r.record c p).session.Holds p ∨ Reported (r.record c p).issues (.port p.key) := by
  unfold Restoration.record
  cases done : r.session.assign c p.function p.role p.port p.slot with
  | error e => exact .inr (.last e)
  | ok x => exact .inl (Session.holds_of_assign done)

private theorem record_holds_of_ne (r : Restoration) {p q : PortRecord} (apart : p.key ≠ q.key)
    (holds : r.session.Holds p) :
    (r.record c q).session.Holds p := by
  rcases record_session c r q with same | ⟨w, _, _, _, same⟩
  · rwa [same]
  · rwa [same, Session.Holds, Session.wire_port?, if_neg apart]

/-- A location is recorded, or it is reported why not. -/
theorem location_decided (r : Restoration) (p : PrinterFunction × Role) :
    (r.location p).session.locations.get? p.1 = some p.2 ∨ Reported (r.location p).issues (.location p.1) := by
  have placed : (r.session.putLocation p.1 p.2).locations.get? p.1 = some p.2 := by
    simp only [Session.putLocation, Table.get?_insert, if_true]
  unfold Restoration.location
  cases r.session.port? ⟨p.1, .primary⟩ with
  | none => exact .inl placed
  | some port =>
    simp only
    split_ifs
    · exact .inl placed
    · exact .inr (.last _)

private theorem location_get?_of_ne (r : Restoration) {p : PrinterFunction × Role} {f : PrinterFunction}
    (apart : f ≠ p.1) :
    (r.location p).session.locations.get? f = r.session.locations.get? f := by
  rcases location_session r p with same | ⟨_, same⟩
  · rw [same]
  · rw [same, Session.putLocation, Table.get?_insert, if_neg apart]

private theorem location_holds (r : Restoration) (p : PrinterFunction × Role) {q : PortRecord}
    (holds : r.session.Holds q) :
    (r.location p).session.Holds q := by
  rcases location_session r p with same | ⟨_, same⟩
  · rwa [same]
  · rwa [same]

/-! ## All steps -/

private theorem wired_issues (c : Catalog) (d : Document) : (selected c d).issues <+: (wired c d).issues :=
  List.foldlRecOn (motive := fun r : Restoration => (selected c d).issues <+: r.issues) _ _ List.prefix_rfl
    fun r kept p _ => kept.trans (record_issues r p)

private theorem placed_issues (c : Catalog) (d : Document) : (wired c d).issues <+: (placed c d).issues :=
  List.foldlRecOn (motive := fun r : Restoration => (wired c d).issues <+: r.issues) _ _ List.prefix_rfl
    fun r kept p _ => kept.trans (location_issues r p)

/-- The boards of a restored session are those that were selected at first, and its options those that were set. -/
theorem placed_frame (c : Catalog) (d : Document) :
    (placed c d).session.boards = (selected c d).session.boards ∧
      (placed c d).session.options = (optioned c d).session.options := by
  have optioned_boards : (optioned c d).session.boards = (selected c d).session.boards :=
    List.foldlRecOn (motive := fun s : Session => s.boards = (selected c d).session.boards) _ _ rfl
      fun _ same _ _ => same
  have wired : (wired c d).session.boards = (selected c d).session.boards ∧
      (wired c d).session.options = (optioned c d).session.options :=
    List.foldlRecOn (motive := fun r : Restoration => r.session.boards = (selected c d).session.boards ∧
      r.session.options = (optioned c d).session.options) _ _ ⟨optioned_boards, rfl⟩ fun r kept p _ => by
        rcases record_session c r p with same | ⟨w, _, _, _, same⟩
        · rwa [same]
        · rwa [same, Session.wire_boards, Session.wire_options]
  exact List.foldlRecOn (motive := fun r : Restoration => r.session.boards = (selected c d).session.boards ∧
    r.session.options = (optioned c d).session.options) _ _ wired fun r kept p _ => by
      rcases location_session r p with same | ⟨_, same⟩
      · rwa [same]
      · rwa [same]

private theorem placed_boards {role : Role} {id : String} (given : d.boards.get? role = some id) :
    (placed c d).session.board? role = some id ∨ Reported (placed c d).issues (.board role) := by
  have chosen : (selected c d).session.board? role = some id ∨ Reported (selected c d).issues (.board role) := by
    refine foldl_decided (· = role)
      (fun r : Restoration => r.session.board? role = some id ∨ Reported r.issues (.board role)) ?_ ?_
      ⟨role, Enumerated.mem_all role, rfl⟩ (start d)
    · rintro r _ _ rfl
      exact board_decided r given
    · intro r other _ apart decided
      refine decided.imp (fun held => ?_) fun reported => reported.grown (board_issues r other)
      rwa [board_board?_of_ne r (Ne.symm apart)]
  refine chosen.imp (fun held => ?_) fun reported => reported.grown ((wired_issues c d).trans (placed_issues c d))
  rwa [Session.board?, (placed_frame c d).1]

/-- All pin options are restored. -/
theorem placed_options {f : PrinterFunction} {o : PinOptions} (given : d.options.get? f = some o) :
    (placed c d).session.optionsOf f = o := by
  have set : (optioned c d).session.optionsOf f = o := by
    refine foldl_decided (·.1 = f) (fun s : Session => s.optionsOf f = o) ?_ ?_
      ⟨(f, o), Table.mem_toList.mpr given, rfl⟩ (selected c d).session
    · rintro s ⟨_, o'⟩ listed rfl
      have same := (Table.mem_toList.mp listed).symm.trans given
      rw [Session.optionsOf_putOptions, if_pos rfl, Option.some.inj same]
    · intro s p _ apart held
      rwa [Session.optionsOf_putOptions, if_neg (Ne.symm apart)]
  rwa [Session.optionsOf, (placed_frame c d).2]

/-- The records for a slot are taken in their order, since all of them are for the same kind of slot. -/
theorem filter_wiringOrder (d : Document) (k : SlotKey) :
    d.wiringOrder.filter (·.key = k) = d.records.filter (·.key = k) := by
  have kind (slot : Slot) : (d.records.filter (·.slot = slot)).filter (·.key = k) =
      if slot = k.slot then d.records.filter (·.key = k) else [] := by
    rw [List.filter_filter]
    split_ifs with same
    · refine List.filter_congr fun p _ => ?_
      simp only [Bool.and_eq_left_iff_imp, decide_eq_true_eq]
      rintro rfl
      exact same.symm
    · refine List.filter_eq_nil_iff.mpr fun p _ => ?_
      simp only [Bool.and_eq_true, decide_eq_true_eq, not_and]
      rintro rfl here
      exact same here.symm
  rw [Document.wiringOrder, List.filter_append, kind, kind]
  cases k.slot <;> simp

private theorem foldl_record_latest {rs : List PortRecord} {k : SlotKey} {p : PortRecord}
    (last : (rs.filter (·.key = k)).getLast? = some p) (r : Restoration) :
    (rs.foldl (Restoration.record c) r).session.Holds p ∨
      Reported (rs.foldl (Restoration.record c) r).issues (.port k) := by
  induction rs using List.reverseRecOn with
  | nil => simp at last
  | append_singleton before q ih =>
    rw [List.foldl_concat]
    by_cases here : q.key = k
    · have same : q = p := by simpa [here] using last
      subst same here
      exact record_decided c _ q
    · have earlier : (before.filter (·.key = k)).getLast? = some p := by simpa [here] using last
      have own : p.key = k := by simpa using (List.mem_filter.mp (List.mem_of_getLast? earlier)).2
      have apart : p.key ≠ q.key := fun same => here (same.symm.trans own)
      exact (ih earlier).imp (record_holds_of_ne _ apart) fun reported => reported.grown (record_issues _ q)

/-- Of the records of a slot the last one is in force, or it is reported why not. -/
theorem placed_latest {k : SlotKey} {p : PortRecord} (last : (d.records.filter (·.key = k)).getLast? = some p) :
    (placed c d).session.Holds p ∨ Reported (placed c d).issues (.port k) := by
  have wired : (wired c d).session.Holds p ∨ Reported (wired c d).issues (.port k) :=
    foldl_record_latest (by rw [filter_wiringOrder, last]) (optioned c d)
  refine wired.imp (fun holds => ?_) fun reported => reported.grown (placed_issues c d)
  exact List.foldlRecOn (motive := fun r : Restoration => r.session.Holds p) _ _ holds
    fun r holds q _ => location_holds r q holds

private theorem placed_locations {f : PrinterFunction} {role : Role} (given : d.locations.get? f = some role) :
    (placed c d).session.locations.get? f = some role ∨ Reported (placed c d).issues (.location f) := by
  refine foldl_decided (·.1 = f)
    (fun r : Restoration => r.session.locations.get? f = some role ∨ Reported r.issues (.location f)) ?_ ?_
    ⟨(f, role), Table.mem_toList.mpr given, rfl⟩ (wired c d)
  · rintro r ⟨_, role'⟩ listed rfl
    cases (Table.mem_toList.mp listed).symm.trans given
    exact location_decided r _
  · intro r p _ apart decided
    refine decided.imp (fun held => ?_) fun reported => reported.grown (location_issues r p)
    rwa [location_get?_of_ne r (Ne.symm apart)]

end Restoration

namespace Session

/-- All that a document states is in force or reported, the last record of each slot in its place. -/
theorem restore_accounted (c : Catalog) (d : Document) : Accounted d (restore c d).1 (restore c d).2 where
  boards _ _ given := Restoration.placed_boards given
  latest _ _ last := Restoration.placed_latest last
  locations _ _ given := Restoration.placed_locations given
  options _ _ given := Restoration.placed_options given
  settings := restore_settings c d

/-- A slot has no more than one of the ports that records name for it. -/
private theorem same_port {s : Session} {p q : PortRecord} (same : p.key = q.key) (first : s.Holds p)
    (second : s.Holds q) : p.role = q.role ∧ Text.SameLetters p.port q.port := by
  obtain ⟨a, held, role, letters⟩ := first
  obtain ⟨b, held', role', letters'⟩ := second
  rw [same, held', Option.some.injEq] at held
  subst held
  exact ⟨role.symm.trans role', letters.symm.trans letters'⟩

private theorem holds_congr {s : Session} {p q : PortRecord} (same : p.key = q.key) (role : p.role = q.role)
    (letters : Text.SameLetters p.port q.port) (holds : s.Holds q) : s.Holds p := by
  obtain ⟨a, held, there, spelled⟩ := holds
  exact ⟨a, by rw [same, held], there.trans role.symm, spelled.trans letters.symm⟩

/-- A restoration accounts for every board, location, pin option and setting of a document, and of the records for a
slot for the last one. So every record is in force or reported exactly if records for one slot, unless it is reported,
name the same port. -/
theorem restore_accounts (c : Catalog) (d : Document) :
    Accounted d (restore c d).1 (restore c d).2 ∧
      ((∀ p ∈ d.records, (restore c d).1.Holds p ∨ Reported (restore c d).2 (.port p.key)) ↔
        ∀ p ∈ d.records, ∀ q ∈ d.records, p.key = q.key →
          Reported (restore c d).2 (.port p.key) ∨ p.role = q.role ∧ Text.SameLetters p.port q.port) := by
  have accounted := restore_accounted c d
  refine ⟨accounted, ?_, ?_⟩
  · intro each p inside q inside' same
    rcases each p inside with first | reported
    · rcases each q inside' with second | reported
      · exact .inr (same_port same first second)
      · exact .inl (same ▸ reported)
    · exact .inl reported
  · intro agree p inside
    have filled : d.records.filter (·.key = p.key) ≠ [] := List.ne_nil_of_mem (List.mem_filter.mpr ⟨inside, by simp⟩)
    obtain ⟨inside', here⟩ := List.mem_filter.mp (List.getLast_mem filled)
    have same : p.key = ((d.records.filter (·.key = p.key)).getLast filled).key := (of_decide_eq_true here).symm
    rcases accounted.latest p.key _ (List.getLast?_eq_some_getLast filled) with holds | reported
    · rcases agree p inside _ inside' same with reported | ⟨role, letters⟩
      · exact .inr reported
      · exact .inl (holds_congr same role letters holds)
    · exact .inr reported

/-- Two records that name different ports for one slot. -/
def repeatedFan : Document :=
  { Document.empty with
    boards := Table.empty.insert .mainboard "btt-octopus-v1.1"
    records :=
      [⟨.fan .partCooling, .primary, .mainboard, "FAN0"⟩, ⟨.fan .partCooling, .primary, .mainboard, "FAN1"⟩] }

/-- Two records of one slot: the first is neither in force nor reported. -/
theorem repeatedFan_lost : ¬ ∀ p ∈ repeatedFan.records, (restore Catalog.builtin repeatedFan).1.Holds p ∨
    Reported (restore Catalog.builtin repeatedFan).2 (.port p.key) := by
  intro each
  have outcome : (restore Catalog.builtin repeatedFan).1.port? ⟨.fan .partCooling, .primary⟩ =
      some ⟨.mainboard, "FAN1"⟩ ∧ (restore Catalog.builtin repeatedFan).2 = [] := by
    decide +kernel
  rcases each ⟨.fan .partCooling, .primary, .mainboard, "FAN0"⟩ (List.mem_cons_self ..) with holds | reported
  · obtain ⟨a, held, _, letters⟩ := holds
    cases outcome.1.symm.trans held
    exact absurd (show Text.lower "FAN1" = Text.lower "FAN0" from letters) (by decide)
  · obtain ⟨i, listed, _⟩ := reported
    rw [outcome.2] at listed
    cases listed

/-- What was restored from a document, whichever it was, is restored from its own document as it is, and nothing is left
out. -/
theorem restore_toDocument_restore (c : Catalog) (d : Document) :
    restore c (restore c d).1.toDocument = ((restore c d).1, []) := by
  have sound : (restore c d).1.Sound c := restore_sound c d
  have paired : (restore c d).1.Paired := restore_paired c d
  exact restore_toDocument sound paired

end Session

end PrinterWiring
