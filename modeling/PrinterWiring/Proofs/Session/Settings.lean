import PrinterWiring.Proofs.Session.Growth

/-!
# Settings and the rest of a session

Restoring a session looks at everything in its document but the settings: under other settings the same is wired, placed
and reported (`restore_withSettings`).
-/

namespace PrinterWiring

/-- The session under other settings. -/
def Session.withSettings (s : Session) (t : Settings) : Session := { s with settings := t }

/-- The document with other settings. -/
def Document.withSettings (d : Document) (t : Settings) : Document := { d with settings := t }

/-- The restoration under other settings. -/
def Restoration.withSettings (r : Restoration) (t : Settings) : Restoration :=
  { r with session := r.session.withSettings t }

variable {t : Settings}

/-! ## Edits -/

/-- The outcome of an edit, under other settings. -/
def resettled {α : Type} (t : Settings) (x : Except WiringError (Session × α)) : Except WiringError (Session × α) :=
  x.map fun p => (p.1.withSettings t, p.2)

namespace Session

private theorem selectBoard_withSettings (c : Catalog) (s : Session) (role : Role) (id : String) :
    (s.withSettings t).selectBoard c role (some id) = resettled t (s.selectBoard c role (some id)) := by
  have boards : (s.withSettings t).boards = s.boards := rfl
  cases known : c.board id with
  | error e =>
    simp only [selectBoard, known]
    rfl
  | ok b =>
    by_cases held : s.boards.get? role = some id
    · simp only [selectBoard, known, boards, held, if_true]
      rfl
    · simp only [selectBoard, known, boards, held, if_false]
      rfl

private theorem claim_withSettings (s : Session) (f : PrinterFunction) (role : Role) (slot : Slot) (p : Port) :
    (s.withSettings t).claim f role slot p = resettled t (s.claim f role slot p) := by
  have registry : (s.withSettings t).registry = s.registry := rfl
  unfold claim
  rw [registry]
  cases s.registry.owner? role p.id with
  | some owner =>
    simp only
    split_ifs <;> rfl
  | none =>
    have options : (s.withSettings t).optionsOf f = s.optionsOf f := rfl
    simp only [options]
    cases p.resolve f role (s.optionsOf f) with
    | error e => rfl
    | ok pins => cases slot <;> rfl

/-- Settings make no difference to an assignment. -/
theorem assign_withSettings (c : Catalog) (s : Session) (f : PrinterFunction) (role : Role) (port : String)
    (slot : Slot) : (s.withSettings t).assign c f role port slot = resettled t (s.assign c f role port slot) := by
  have admits : (s.withSettings t).admits f slot = s.admits f slot := rfl
  have offered : (s.withSettings t).offered c f role port = s.offered c f role port := rfl
  rw [assign_eq, assign_eq, admits, offered]
  cases s.admits f slot with
  | error e => rfl
  | ok _ =>
    cases s.offered c f role port with
    | error e => rfl
    | ok p => exact claim_withSettings s f role slot p

end Session

/-! ## Restorations -/

namespace Restoration

variable {c : Catalog} {d : Document}

private theorem take_withSettings {α : Type} (r : Restoration) (fact : FactName)
    (x : Except WiringError (Session × α)) :
    (r.withSettings t).take fact (resettled t x) = (r.take fact x).withSettings t := by
  cases x <;> rfl

private theorem board_withSettings (r : Restoration) (role : Role) :
    (r.withSettings t).board c (d.withSettings t) role = (r.board c d role).withSettings t := by
  have boards : (d.withSettings t).boards = d.boards := rfl
  unfold Restoration.board
  rw [boards]
  cases d.boards.get? role with
  | none => rfl
  | some id =>
    simp only
    rw [show (r.withSettings t).session = r.session.withSettings t from rfl, Session.selectBoard_withSettings,
      take_withSettings]

private theorem record_withSettings (r : Restoration) (p : PortRecord) :
    (r.withSettings t).record c p = (r.record c p).withSettings t := by
  unfold Restoration.record
  rw [show (r.withSettings t).session = r.session.withSettings t from rfl, Session.assign_withSettings,
    take_withSettings]

private theorem location_withSettings (r : Restoration) (p : PrinterFunction × Role) :
    (r.withSettings t).location p = (r.location p).withSettings t := by
  have port : (r.withSettings t).session.port? ⟨p.1, .primary⟩ = r.session.port? ⟨p.1, .primary⟩ := rfl
  unfold Restoration.location
  rw [port]
  cases r.session.port? ⟨p.1, .primary⟩ with
  | none => rfl
  | some a =>
    simp only
    split_ifs <;> rfl

/-- Settings make no difference to what else is restored. -/
theorem placed_withSettings (c : Catalog) (d : Document) (t : Settings) :
    placed c (d.withSettings t) = (placed c d).withSettings t := by
  have selected : selected c (d.withSettings t) = (selected c d).withSettings t := by
    have begun : start (d.withSettings t) = (start d).withSettings t := rfl
    unfold Restoration.selected
    rw [begun]
    exact List.foldl_hom (Restoration.withSettings · t) fun r role => board_withSettings r role
  have optioned : optioned c (d.withSettings t) = (optioned c d).withSettings t := by
    unfold Restoration.optioned
    rw [selected]
    exact congrArg (fun s => Restoration.mk s _) (List.foldl_hom (Session.withSettings · t) fun s p => rfl)
  have wired : wired c (d.withSettings t) = (wired c d).withSettings t := by
    unfold Restoration.wired
    rw [optioned]
    exact List.foldl_hom (Restoration.withSettings · t) fun r p => record_withSettings r p
  unfold placed
  rw [wired]
  exact List.foldl_hom (Restoration.withSettings · t) fun r p => location_withSettings r p

end Restoration

theorem Session.restore_withSettings (c : Catalog) (d : Document) (t : Settings) :
    restore c (d.withSettings t) = ((restore c d).1.withSettings t, (restore c d).2) := by
  rw [Restoration.restore_eq, Restoration.placed_withSettings]
  rfl

end PrinterWiring
