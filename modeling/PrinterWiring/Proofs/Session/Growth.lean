import PrinterWiring.Proofs.Session.Change
import PrinterWiring.Session.Restore

/-!
# How a restored session grows

`Session.restore` works in stages. After the first two the session is `Fresh`: boards are selected and pin options
set as the document has them, but nothing is wired or placed. The other two only make changes of the kinds of
`Change` (`placed_grows`), and what they wire, a record of the document has asked for (`placed_drawn`).
-/

namespace PrinterWiring

namespace Session

/-- Boards are selected and options set as a document has them, but nothing is wired or placed yet. -/
structure Fresh (c : Catalog) (d : Document) (s : Session) : Prop where
  unwired : ∀ k, s.wiring.get? k = none
  unplaced : ∀ f, s.locations.get? f = none
  drawn : ∀ role id, s.board? role = some id → d.boards.get? role = some id
  known : ∀ role, Known c (s.board? role)
  marked : ∀ f o, s.options.get? f = some o → o.isStandard = false
  settled : s.settings = d.settings

/-- What a session has, a document has given. -/
structure Drawn (d : Document) (s : Session) : Prop where
  boards : ∀ role id, s.board? role = some id → d.boards.get? role = some id
  ports : ∀ k a, s.port? k = some a → ∃ r ∈ d.records, r.key = k ∧ r.role = a.role ∧ Text.SameLetters a.port r.port
  settings : s.settings = d.settings

end Session

namespace Restoration

/-! ## The stages -/

/-- A restoration of which nothing but the settings is done. -/
def start (d : Document) : Restoration := ⟨{ Session.empty with settings := d.settings }, []⟩

/-- A restoration after its boards are selected. -/
def selected (c : Catalog) (d : Document) : Restoration :=
  (Enumerated.all : List Role).foldl (Restoration.board c d) (start d)

/-- A restoration after its pin options are set, too. -/
def optioned (c : Catalog) (d : Document) : Restoration :=
  { selected c d with
    session := d.options.toList.foldl (fun s p => s.putOptions p.1 p.2) (selected c d).session }

/-- A restoration after its ports are wired, too. -/
def wired (c : Catalog) (d : Document) : Restoration := d.wiringOrder.foldl (Restoration.record c) (optioned c d)

/-- A restoration after all stages. -/
def placed (c : Catalog) (d : Document) : Restoration := d.locations.toList.foldl Restoration.location (wired c d)

theorem restore_eq (c : Catalog) (d : Document) :
    Session.restore c d = ((placed c d).session, (placed c d).issues) := rfl

/-! ## What the stages do -/

variable {c : Catalog} {d : Document}

private theorem start_fresh (c : Catalog) (d : Document) : (start d).session.Fresh c d where
  unwired k := Table.get?_empty k
  unplaced f := Table.get?_empty f
  drawn role id held := by simp [start, Session.board?, Session.empty] at held
  known role id held := by simp [start, Session.board?, Session.empty] at held
  marked f o held := by simp [start, Session.empty] at held
  settled := rfl

private theorem board_fresh {r : Restoration} (fresh : r.session.Fresh c d) (role : Role) :
    (r.board c d role).session.Fresh c d := by
  unfold Restoration.board
  cases given : d.boards.get? role with
  | none => exact fresh
  | some id =>
    simp only
    cases done : r.session.selectBoard c role (some id) with
    | error e => exact fresh
    | ok p =>
      obtain ⟨t, n⟩ := p
      obtain ⟨known, rfl⟩ := Session.selectBoard_ok_iff.mp ⟨n, done⟩
      show Session.Fresh c d (if r.session.board? role = some id then r.session else r.session.swapBoard role (some id))
      split_ifs
      · exact fresh
      · have held : ∀ role', (r.session.swapBoard role (some id)).board? role' =
            if role' = role then some id else r.session.board? role' := fun _ => Table.get?_put ..
        refine ⟨?_, fresh.unplaced, ?_, ?_, fresh.marked, fresh.settled⟩
        · intro k
          simp [Session.swapBoard, fresh.unwired k]
        · intro role' id' selected
          rw [held] at selected
          split_ifs at selected with same
          · rw [same, given, selected]
          · exact fresh.drawn role' id' selected
        · intro role'
          rw [held]
          split_ifs
          · exact known
          · exact fresh.known role'

private theorem putOptions_fresh {s : Session} (fresh : s.Fresh c d) (f : PrinterFunction) (o : PinOptions) :
    (s.putOptions f o).Fresh c d where
  unwired := fresh.unwired
  unplaced := fresh.unplaced
  drawn := fresh.drawn
  known := fresh.known
  marked f' o' held := by
    simp only [Session.putOptions, Table.get?_put] at held
    split_ifs at held with same standard
    · cases held
      simpa using standard
    · exact fresh.marked f' o' held
  settled := fresh.settled

/-- Before its ports are wired, a restored session is fresh. -/
theorem optioned_fresh (c : Catalog) (d : Document) : (optioned c d).session.Fresh c d := by
  have chosen : (selected c d).session.Fresh c d :=
    List.foldlRecOn (motive := fun r : Restoration => r.session.Fresh c d) _ _ (start_fresh c d)
      fun _ fresh role _ => board_fresh fresh role
  exact List.foldlRecOn (motive := fun s : Session => s.Fresh c d) _ _ chosen
    fun _ fresh p _ => putOptions_fresh fresh p.1 p.2

/-- A record that is taken is wired to the selected board; one that is not has changed nothing. -/
theorem record_session (c : Catalog) (r : Restoration) (p : PortRecord) :
    (r.record c p).session = r.session ∨ ∃ w, r.session.Fits c p.key w ∧ w.port.role = p.role ∧
      Text.SameLetters w.port.port p.port ∧ (r.record c p).session = r.session.wire p.key w := by
  unfold Restoration.record
  cases done : r.session.assign c p.function p.role p.port p.slot with
  | error e => exact .inl rfl
  | ok x => exact Session.assign_ok done

theorem location_session (r : Restoration) (p : PrinterFunction × Role) :
    (r.location p).session = r.session ∨
      (∀ a, r.session.port? ⟨p.1, .primary⟩ = some a → a.role = p.2) ∧
        (r.location p).session = r.session.putLocation p.1 p.2 := by
  unfold Restoration.location
  cases held : r.session.port? ⟨p.1, .primary⟩ with
  | none => exact .inr ⟨by simp, rfl⟩
  | some port =>
    simp only
    split_ifs with same
    · exact .inr ⟨by simpa using same, rfl⟩
    · exact .inl rfl

/-- Restoring makes changes of a fresh session and nothing else. -/
theorem placed_grows (c : Catalog) (d : Document) :
    Relation.ReflTransGen (Session.Change c) (optioned c d).session (placed c d).session := by
  have wiring : Relation.ReflTransGen (Session.Change c) (optioned c d).session (wired c d).session :=
    List.foldlRecOn (motive := fun r : Restoration =>
      Relation.ReflTransGen (Session.Change c) (optioned c d).session r.session) _ _ .refl
      fun r grown p _ => by
        rcases record_session c r p with same | ⟨w, fits, _, _, same⟩
        · rwa [same]
        · rw [same]
          exact grown.tail (.wired fits)
  exact List.foldlRecOn (motive := fun r : Restoration =>
    Relation.ReflTransGen (Session.Change c) (optioned c d).session r.session) _ _ wiring
    fun r grown p _ => by
      rcases location_session r p with same | ⟨agrees, same⟩
      · rwa [same]
      · rw [same]
        exact grown.tail (.placed agrees)

/-! ## What a document has given -/

private theorem record_drawn {r : Restoration} (drawn : r.session.Drawn d) {p : PortRecord} (given : p ∈ d.records) :
    (r.record c p).session.Drawn d := by
  rcases record_session c r p with same | ⟨w, fits, role, letters, same⟩
  · rwa [same]
  · rw [same]
    refine ⟨fun role' id held => drawn.boards role' id ?_, fun k a held => ?_, ?_⟩
    · rwa [Session.board?, Session.wire_boards] at held
    · rw [Session.port?, Session.wire_wiring, Table.get?_insert] at held
      split_ifs at held with here
      · cases held
        exact ⟨p, given, here.symm, role.symm, letters⟩
      · exact drawn.ports k a held
    · rw [Session.wire_settings, drawn.settings]

private theorem mem_records_of_mem_wiringOrder {p : PortRecord} (ordered : p ∈ d.wiringOrder) : p ∈ d.records := by
  rcases List.mem_append.mp ordered with first | second
  · exact List.mem_of_mem_filter first
  · exact List.mem_of_mem_filter second

/-- What is restored is drawn from the document. -/
theorem placed_drawn (c : Catalog) (d : Document) : (placed c d).session.Drawn d := by
  have fresh := optioned_fresh c d
  have optioned : (optioned c d).session.Drawn d :=
    ⟨fresh.drawn, fun k a held => by simp [Session.port?, fresh.unwired] at held, fresh.settled⟩
  have wired : (wired c d).session.Drawn d :=
    List.foldlRecOn (motive := fun r : Restoration => r.session.Drawn d) _ _ optioned
      fun r drawn p ordered => record_drawn drawn (mem_records_of_mem_wiringOrder ordered)
  exact List.foldlRecOn (motive := fun r : Restoration => r.session.Drawn d) _ _ wired
    fun r drawn p _ => by
      rcases location_session r p with same | ⟨_, same⟩
      · rwa [same]
      · rw [same]
        exact ⟨drawn.boards, drawn.ports, drawn.settings⟩

end Restoration

/-- The settings of a restored session are those of the document. -/
theorem Session.restore_settings (c : Catalog) (d : Document) : (restore c d).1.settings = d.settings :=
  (Restoration.placed_drawn c d).settings

end PrinterWiring
