import PrinterWiring.Catalog.Builtin
import PrinterWiring.Proofs.Session.Exclusive

/-!
# Ports in any letter case

Ports are looked up and owned without regard to the case of ASCII letters, and what is kept of a port is the spelling of
the board. So histories that spell the ports they name differently go through the same sessions and get the same answers
(`trace_recased`); only the error that a board has no such port repeats the spelling it was asked with.
-/

namespace PrinterWiring

/-! ## Inputs and answers up to letter case -/

/-- Records that spell one port. -/
structure PortRecord.Recased (p q : PortRecord) : Prop where
  function : q.function = p.function
  slot : q.slot = p.slot
  role : q.role = p.role
  port : Text.SameLetters p.port q.port

/-- Documents that differ at most in how their records spell the ports. -/
structure Document.Recased (d e : Document) : Prop where
  boards : e.boards = d.boards
  records : List.Forall₂ PortRecord.Recased d.records e.records
  options : e.options = d.options
  locations : e.locations = d.locations
  settings : e.settings = d.settings

/-- Edits that differ at most in how they spell a port. -/
inductive Edit.Recased : Edit → Edit → Prop where
  | assign (f : PrinterFunction) (role : Role) {port port' : String} (slot : Slot) (letters : Text.SameLetters port port') :
      Recased (.assign f role port slot) (.assign f role port' slot)
  | freePort (role : Role) {port port' : String} (letters : Text.SameLetters port port') :
      Recased (.freePort role port) (.freePort role port')
  | same (e : Edit) : Recased e e

/-- Operations that differ at most in how they spell ports. -/
inductive Operation.Recased : Operation → Operation → Prop where
  | edit {e e' : Edit} (alike : e.Recased e') : Recased (.edit e) (.edit e')
  | restore {d d' : Document} (alike : d.Recased d') : Recased (.restore d) (.restore d')
  | same (op : Operation) : Recased op op

/-- What an operation answers. -/
inductive Operation.Answer where
  | edited (result : Except WiringError Reply)
  | restored (issues : List RestoreIssue)
  /-- Whether there is such a setting, or why it does not take the value. -/
  | set (result : Except SettingError Bool)
  /-- Whether there is such a setting. -/
  | unset (known : Bool)
  | settled

/-- Errors that are the same, or repeat two spellings of a port that a board does not have. -/
inductive WiringError.Recased : WiringError → WiringError → Prop where
  | unknownPort (role : Role) (board : String) {port port' : String} (letters : Text.SameLetters port port') :
      Recased (.unknownPort role board port) (.unknownPort role board port')
  | same (e : WiringError) : Recased e e

/-- Results that are the same, or errors that are. -/
inductive ResultRecased {α : Type} : Except WiringError α → Except WiringError α → Prop where
  | ok (a : α) : ResultRecased (.ok a) (.ok a)
  | error {e e' : WiringError} (alike : e.Recased e') : ResultRecased (.error e) (.error e')

/-- Issues about one fact. -/
structure RestoreIssue.Recased (i j : RestoreIssue) : Prop where
  fact : j.fact = i.fact
  error : i.error.Recased j.error

/-- Answers that differ at most in how errors repeat a port. -/
inductive Operation.Answer.Recased : Operation.Answer → Operation.Answer → Prop where
  | edited {x y : Except WiringError Reply} (alike : ResultRecased x y) : Recased (.edited x) (.edited y)
  | restored {is js : List RestoreIssue} (alike : List.Forall₂ RestoreIssue.Recased is js) :
      Recased (.restored is) (.restored js)
  | same (a : Operation.Answer) : Recased a a

namespace Session

/-- What a session answers to an operation. -/
def answer (c : Catalog) (s : Session) : Operation → Operation.Answer
  | .edit e => .edited ((s.perform c e).map (·.2))
  | .restore d => .restored (restore c d).2
  | .set key value => .set ((s.settings.setNamed key value).map (·.isSome))
  | .unset key => .unset (s.settings.unsetNamed key).isSome
  | .settle _ => .settled

/-- The session after each operation of a history, with what was answered to it. -/
def trace (c : Catalog) : Session → List Operation → List (Session × Operation.Answer)
  | _, [] => []
  | s, op :: ops => (s.after c op, s.answer c op) :: trace c (s.after c op) ops

end Session

namespace ResultRecased

variable {α β : Type} {x y : Except WiringError α}

theorem refl (x : Except WiringError α) : ResultRecased x x := by
  cases x with
  | error e => exact .error (.same e)
  | ok a => exact .ok a

theorem bind {g h : α → Except WiringError β} (alike : ResultRecased x y) (next : ∀ a, ResultRecased (g a) (h a)) :
    ResultRecased (x >>= g) (y >>= h) := by
  cases alike with
  | ok a => exact next a
  | error alike => exact .error alike

theorem map (alike : ResultRecased x y) (f : α → β) : ResultRecased (x.map f) (y.map f) := by
  cases alike with
  | ok a => exact .ok (f a)
  | error alike => exact .error alike

end ResultRecased

private theorem RestoreIssue.recased_refl (is : List RestoreIssue) : List.Forall₂ RestoreIssue.Recased is is :=
  List.forall₂_same.mpr fun i _ => ⟨rfl, .same i.error⟩

/-! ## Edits -/

namespace Session

variable {c : Catalog} {s : Session} {role : Role} {port port' : String}

private theorem owner?_congr (letters : Text.SameLetters port port') :
    s.registry.owner? role port = s.registry.owner? role port' := by
  have uses (a : Assignment) : Registry.uses role port a = Registry.uses role port' a := by
    rw [Bool.eq_iff_iff, uses_iff, uses_iff, letters.congr_right]
  rw [Registry.owner?, Registry.owner?, funext uses]

private theorem offered_recased (f : PrinterFunction) (letters : Text.SameLetters port port') :
    ResultRecased (s.offered c f role port) (s.offered c f role port') := by
  unfold offered
  cases s.board? role with
  | none => exact .refl _
  | some id =>
    simp only [bind, Except.bind]
    cases c.board id with
    | error e => exact .refl _
    | ok b =>
      simp only [Board.port?_congr letters]
      cases b.port? port' with
      | none => exact .error (.unknownPort role b.id letters)
      | some p => exact .refl _

/-- The letter case of a port makes no difference to an assignment. -/
theorem assign_recased (f : PrinterFunction) (slot : Slot) (letters : Text.SameLetters port port') :
    ResultRecased (s.assign c f role port slot) (s.assign c f role port' slot) := by
  rw [assign_eq, assign_eq]
  exact (ResultRecased.refl (s.admits f slot)).bind fun _ => (offered_recased f letters).bind fun _ => .refl _

private theorem freePort_recased (letters : Text.SameLetters port port') :
    s.freePort role port = s.freePort role port' := by
  rw [freePort, freePort, owner?_congr letters]

/-- Letter case makes no difference to an edit. -/
theorem perform_recased {e e' : Edit} (alike : e.Recased e') : ResultRecased (s.perform c e) (s.perform c e') := by
  cases alike with
  | assign f role slot letters => exact (assign_recased f slot letters).map _
  | freePort role letters =>
    rw [perform, perform, freePort_recased letters]
    exact .refl _
  | same e => exact .refl _

end Session

/-! ## Restoration -/

namespace Restoration

variable {c : Catalog} {d e : Document} {r r' : Restoration}

/-- Restorations of one session, with issues about the same facts. -/
structure Recased (r r' : Restoration) : Prop where
  session : r'.session = r.session
  issues : List.Forall₂ RestoreIssue.Recased r.issues r'.issues

theorem Recased.take {α : Type} (alike : r.Recased r') (fact : FactName) {x y : Except WiringError (Session × α)}
    (results : ResultRecased x y) : (r.take fact x).Recased (r'.take fact y) := by
  cases results with
  | ok a => exact ⟨rfl, alike.issues⟩
  | error same => exact ⟨alike.session, List.rel_append alike.issues (.cons ⟨rfl, same⟩ .nil)⟩

theorem Recased.record (alike : r.Recased r') {p q : PortRecord} (records : p.Recased q) :
    (r.record c p).Recased (r'.record c q) := by
  have key : q.key = p.key := by rw [PortRecord.key, PortRecord.key, records.function, records.slot]
  rw [Restoration.record, Restoration.record, alike.session, key, records.function, records.slot, records.role]
  exact alike.take _ (Session.assign_recased _ _ records.port)

theorem Recased.location (alike : r.Recased r') (p : PrinterFunction × Role) :
    (r.location p).Recased (r'.location p) := by
  unfold Restoration.location
  rw [alike.session]
  cases r.session.port? ⟨p.1, .primary⟩ with
  | none => exact ⟨rfl, alike.issues⟩
  | some a =>
    simp only
    split_ifs
    · exact ⟨rfl, alike.issues⟩
    · exact ⟨rfl, List.rel_append alike.issues (RestoreIssue.recased_refl _)⟩

private theorem wiringOrder_recased (alike : d.Recased e) :
    List.Forall₂ PortRecord.Recased d.wiringOrder e.wiringOrder := by
  have kind (slot : Slot) : List.Forall₂ PortRecord.Recased (d.records.filter (·.slot = slot))
      (e.records.filter (·.slot = slot)) := by
    refine List.rel_filter ?_ alike.records
    intro p q same
    simp only [same.slot]
  exact List.rel_append (kind .primary) (kind .secondary)

private theorem optioned_recased (alike : d.Recased e) : optioned c e = optioned c d := by
  have step : Restoration.board c e = Restoration.board c d := by
    funext r role
    rw [Restoration.board, Restoration.board, alike.boards]
  rw [optioned, optioned, selected, selected, start, start, step, alike.options, alike.settings]

/-- Letter case makes no difference to what is restored. -/
theorem placed_recased (alike : d.Recased e) : (placed c d).Recased (placed c e) := by
  have wired : (wired c d).Recased (wired c e) := by
    rw [Restoration.wired, Restoration.wired, optioned_recased alike]
    exact List.rel_foldl (fun _ _ same _ _ records => same.record records)
      ⟨rfl, RestoreIssue.recased_refl _⟩ (wiringOrder_recased alike)
  rw [placed, placed, alike.locations]
  exact List.rel_foldl (R := Eq) (fun _ _ same p _ equal => equal ▸ same.location p) wired
    (List.forall₂_same.mpr fun _ _ => rfl)

end Restoration

/-! ## Histories -/

namespace Session

variable {c : Catalog} {s : Session}

/-- Letter case makes no difference to the session after an operation, nor to its answer. -/
theorem after_recased {op op' : Operation} (alike : op.Recased op') :
    s.after c op' = s.after c op ∧ (s.answer c op).Recased (s.answer c op') := by
  cases alike with
  | @edit e e' alike =>
    have results : ResultRecased (s.perform c e) (s.perform c e') := perform_recased alike
    refine ⟨?_, .edited (results.map _)⟩
    simp only [after]
    generalize s.perform c e = x at results ⊢
    generalize s.perform c e' = y at results ⊢
    cases results with
    | ok a => rfl
    | error _ => rfl
  | restore alike =>
    have placed := Restoration.placed_recased (c := c) alike
    exact ⟨placed.session, .restored placed.issues⟩
  | same op => exact ⟨rfl, .same _⟩

/-- Over any catalog and from any session, histories that differ at most in how they spell the ports go through the same
sessions and get the same answers, up to the spelling that is repeated of a port that a board does not have. -/
theorem trace_recased (c : Catalog) (s : Session) {ops ops' : List Operation}
    (alike : List.Forall₂ Operation.Recased ops ops') :
    List.Forall₂ (fun x y => y.1 = x.1 ∧ x.2.Recased y.2) (s.trace c ops) (s.trace c ops') := by
  -- The sessions stay the same one, so that the next operations are carried out from the same session again.
  induction alike generalizing s with
  | nil => exact .nil
  | cons first rest ih =>
    obtain ⟨same, answers⟩ := after_recased (c := c) (s := s) first
    rw [trace, trace]
    refine .cons ⟨same, answers⟩ ?_
    rw [same]
    exact ih _

/-- A history that names four ports: one to wire, one that the board does not have, one to free, and one in a document. -/
def portsNamed (wired missing freed restored : String) : List Operation :=
  [.edit (.selectBoard .mainboard (some "btt-octopus-v1.1")),
    .edit (.assign (.fan .partCooling) .mainboard wired .primary),
    .edit (.assign (.fan .hotend) .mainboard missing .primary), .edit (.freePort .mainboard freed),
    .restore { Document.empty with
      boards := Table.empty.insert .mainboard "btt-octopus-v1.1"
      records := [⟨.fan .hotend, .primary, .mainboard, restored⟩] }]

/-- The same ports, spelled in two ways. -/
theorem portsNamed_recased :
    List.Forall₂ Operation.Recased (portsNamed "FAN0" "FAN99" "FAN0" "FAN98") (portsNamed "fan0" "Fan99" "Fan0" "fan98") ∧
      List.Forall₂ (fun x y => y.1 = x.1 ∧ x.2.Recased y.2)
        (empty.trace Catalog.builtin (portsNamed "FAN0" "FAN99" "FAN0" "FAN98"))
        (empty.trace Catalog.builtin (portsNamed "fan0" "Fan99" "Fan0" "fan98")) := by
  have wired : Text.SameLetters "FAN0" "fan0" := by simp [Text.SameLetters, Text.lower]
  have missing : Text.SameLetters "FAN99" "Fan99" := by simp [Text.SameLetters, Text.lower]
  have freed : Text.SameLetters "FAN0" "Fan0" := by simp [Text.SameLetters, Text.lower]
  have restored : Text.SameLetters "FAN98" "fan98" := by simp [Text.SameLetters, Text.lower]
  have alike : List.Forall₂ Operation.Recased (portsNamed "FAN0" "FAN99" "FAN0" "FAN98")
      (portsNamed "fan0" "Fan99" "Fan0" "fan98") :=
    .cons (.same _) <| .cons (.edit (.assign _ _ _ wired)) <| .cons (.edit (.assign _ _ _ missing)) <|
      .cons (.edit (.freePort _ freed)) <|
        .cons (.restore ⟨rfl, .cons ⟨rfl, rfl, rfl, restored⟩ .nil, rfl, rfl, rfl⟩) .nil
  exact ⟨alike, trace_recased Catalog.builtin empty alike⟩

end Session

end PrinterWiring
