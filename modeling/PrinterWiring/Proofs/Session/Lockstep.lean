import PrinterWiring.Proofs.Session.Coherence
import PrinterWiring.Proofs.Session.Exclusive
import PrinterWiring.Session.Split

/-!
# Two tables in lockstep

A session that keeps its ports and their resolved pins in two tables is in lockstep if both tables speak of the same
slots. That is to say that they are the two halves of the one table of a `Session` (`lockstep_iff`). Every operation does
to the halves what it does to the whole (`after_split`), although the mutators below the operations could part them. So
whatever operations make of the empty session is in lockstep, and its pins are up to date (`reached_in_lockstep`).
-/

namespace PrinterWiring

namespace Table

variable {κ α β : Type} [DecidableEq κ] [Enumerated κ]

/-- The table with each value replaced, as its key says. -/
def mapKeyed (f : κ → α → β) (t : Table κ α) : Table κ β := build fun k => (t.get? k).map (f k)

@[simp] theorem get?_mapKeyed (f : κ → α → β) (t : Table κ α) (k : κ) : (t.mapKeyed f).get? k = (t.get? k).map (f k) :=
  get?_build ..

theorem mapKeyed_put (f : κ → α → β) (t : Table κ α) (k : κ) (v : Option α) :
    (t.mapKeyed f).put k (v.map (f k)) = (t.put k v).mapKeyed f := by
  apply ext
  intro j
  rw [get?_put, get?_mapKeyed, get?_mapKeyed, get?_put]
  split_ifs with same
  · rw [same]
  · rfl

theorem mapKeyed_insert (f : κ → α → β) (t : Table κ α) (k : κ) (v : α) :
    (t.insert k v).mapKeyed f = (t.mapKeyed f).insert k (f k v) := (mapKeyed_put f t k (some v)).symm

theorem mapKeyed_erase (f : κ → α → β) (t : Table κ α) (k : κ) : (t.erase k).mapKeyed f = (t.mapKeyed f).erase k :=
  (mapKeyed_put f t k none).symm

theorem get?_foldl_erase (ks : List κ) (t : Table κ α) (j : κ) :
    (ks.foldl erase t).get? j = if j ∈ ks then none else t.get? j := by
  induction ks generalizing t with
  | nil => rfl
  | cons k ks ih =>
    rw [List.foldl_cons, ih, get?_erase]
    by_cases same : j = k
    · simp [same]
    · simp [same]

end Table

/-- What is wired to a slot without its pins. -/
def Wiring.assignment (k : SlotKey) (w : Wiring) : Assignment := ⟨k.function, k.slot, w.port, w.category⟩

@[simp] theorem Wiring.key_assignment (k : SlotKey) (w : Wiring) : (w.assignment k).key = k := rfl

/-- A session with its one table of ports and pins parted. -/
def Session.split (t : Session) : SplitSession where
  boards := t.boards
  assignments := t.wiring.mapKeyed Wiring.assignment
  resolved := t.wiring.mapKeyed fun _ w => w.pins
  options := t.options
  locations := t.locations
  settings := t.settings

/-- What an operation on a session results in, with the session parted. -/
def splitting {α : Type} (x : Except WiringError (Session × α)) : Except WiringError (SplitSession × α) :=
  x.map fun p => (p.1.split, p.2)

section
variable {α : Type}

private theorem splitting_ite (p : Prop) [Decidable p] (x y : Except WiringError (Session × α)) :
    splitting (if p then x else y) = if p then splitting x else splitting y := apply_ite ..

private theorem splitting_throw (e : WiringError) :
    splitting (throw e : Except WiringError (Session × α)) = throw e := rfl

private theorem splitting_pure (t : Session) (a : α) : splitting (pure (t, a)) = pure (t.split, a) := rfl

end

namespace SplitSession

variable {c : Catalog} {s : SplitSession} {t : Session} {k : SlotKey}

/-- Both tables speak of the same slots, and an assignment stands at the slot that it names. -/
structure Lockstep (s : SplitSession) : Prop where
  keyed : ∀ k a, s.assignments.get? k = some a → a.key = k
  held : ∀ k, (s.resolved.get? k).isSome ↔ (s.assignments.get? k).isSome

/-- The two halves of one table are in lockstep. -/
theorem lockstep_split (t : Session) : t.split.Lockstep where
  keyed k a held := by
    rw [Session.split, Table.get?_mapKeyed] at held
    obtain ⟨w, _, rfl⟩ := Option.map_eq_some_iff.1 held
    rfl
  held k := by simp [Session.split]

/-- The session that two tables make together. -/
def joined (s : SplitSession) : Session where
  boards := s.boards
  wiring := .build fun k =>
    (s.assignments.get? k).bind fun a => (s.resolved.get? k).map fun pins => ⟨a.port, a.category, pins⟩
  options := s.options
  locations := s.locations
  settings := s.settings

/-- Two tables in lockstep are the halves of the one that they make together. -/
theorem Lockstep.split_joined (lock : s.Lockstep) : s.joined.split = s := by
  have assignments : s.joined.wiring.mapKeyed Wiring.assignment = s.assignments := by
    apply Table.ext
    intro k
    rw [Table.get?_mapKeyed, joined, Table.get?_build]
    cases bound : s.assignments.get? k with
    | none => rfl
    | some a =>
      obtain ⟨pins, held⟩ := Option.isSome_iff_exists.1 ((lock.held k).2 (by rw [bound]; rfl))
      obtain rfl := lock.keyed k a bound
      rw [held]
      rfl
  have resolved : s.joined.wiring.mapKeyed (fun _ w => w.pins) = s.resolved := by
    apply Table.ext
    intro k
    rw [Table.get?_mapKeyed, joined, Table.get?_build]
    cases held : s.resolved.get? k with
    | none => cases s.assignments.get? k <;> rfl
    | some pins =>
      obtain ⟨a, bound⟩ := Option.isSome_iff_exists.1 ((lock.held k).1 (by rw [held]; rfl))
      rw [bound]
      rfl
  rw [Session.split, assignments, resolved]
  rfl

/-- To be in lockstep is to come from one table. -/
theorem lockstep_iff : s.Lockstep ↔ ∃ t : Session, t.split = s := by
  constructor
  · exact fun lock => ⟨s.joined, lock.split_joined⟩
  · rintro ⟨t, rfl⟩
    exact lockstep_split t

/-! ## What is looked up -/

theorem split_empty : Session.empty.split = empty := by
  have fresh {β : Type} (f : SlotKey → Wiring → β) : (Table.empty : Table SlotKey Wiring).mapKeyed f = .empty := by
    apply Table.ext
    intro k
    rw [Table.get?_mapKeyed, Table.get?_empty, Table.get?_empty]
    rfl
  rw [Session.split, Session.empty, fresh, fresh, empty]

@[simp] theorem split_port? (t : Session) (k : SlotKey) : t.split.port? k = t.port? k := by
  rw [port?, Session.split, Table.get?_mapKeyed, Option.map_map]
  rfl

theorem split_assignment? (t : Session) (k : SlotKey) : t.split.assignments.get? k = t.assignment? k := by
  rw [Session.split, Table.get?_mapKeyed]
  rfl

theorem split_pins? (t : Session) (k : SlotKey) : t.split.resolved.get? k = t.pins? k := by
  rw [Session.split, Table.get?_mapKeyed]
  rfl

@[simp] theorem split_contains (t : Session) (k : SlotKey) : t.split.assignments.contains k = t.wiring.contains k := by
  rw [Table.contains, Session.split, Table.get?_mapKeyed, Option.isSome_map, Table.contains]

theorem split_isAssigned (t : Session) (f : PrinterFunction) :
    t.split.assignments.contains ⟨f, .primary⟩ = t.isAssigned f := split_contains t ⟨f, .primary⟩

@[simp] theorem split_values (t : Session) : t.split.assignments.values = t.assignments := by
  rw [Table.values, Table.toList, Session.assignments, List.map_filterMap]
  refine List.filterMap_congr fun k _ => ?_
  rw [Session.split, Table.get?_mapKeyed, Option.map_map, Option.map_map]
  rfl

@[simp] theorem split_boards (t : Session) : t.split.boards = t.boards := rfl

@[simp] theorem split_optionsOf (t : Session) (f : PrinterFunction) : t.split.optionsOf f = t.optionsOf f := rfl

@[simp] theorem split_registry (t : Session) : t.split.registry = t.registry := congrArg Registry.mk (split_values t)

/-! ## Mutators -/

theorem split_insert (t : Session) (k : SlotKey) (w : Wiring) :
    t.split.insertAssignment (w.assignment k) w.pins = { t with wiring := t.wiring.insert k w }.split := by
  simp only [insertAssignment, Wiring.key_assignment, Session.split, Table.mapKeyed_insert]

theorem split_removeSlot (t : Session) (k : SlotKey) :
    t.split.removeSlot k = ({ t with wiring := t.wiring.erase k }.split, t.wiring.contains k) := by
  rw [removeSlot, split_contains]
  simp only [Session.split, Table.mapKeyed_erase]

@[simp] theorem split_putLocation (t : Session) (f : PrinterFunction) (role : Role) :
    t.split.putLocation f role = (t.putLocation f role).split := rfl

@[simp] theorem split_putOptions (t : Session) (f : PrinterFunction) (o : PinOptions) :
    t.split.putOptions f o = (t.putOptions f o).split := rfl

private theorem split_ite (p : Prop) [Decidable p] (t u : Session) :
    (if p then t.split else u.split) = (if p then t else u).split := (apply_ite ..).symm

/-! ## Edits -/

private theorem split_foldl_removeSlot (t : Session) (ks : List SlotKey) :
    ks.foldl (fun s k => (s.removeSlot k).1) t.split = { t with wiring := ks.foldl Table.erase t.wiring }.split := by
  induction ks generalizing t with
  | nil => rfl
  | cons k ks ih =>
    rw [List.foldl_cons, split_removeSlot, ih]
    rfl

private theorem erase_stale (t : Session) (role : Role) :
    ((t.assignments.filter (·.port.role = role)).map Assignment.key).foldl Table.erase t.wiring =
      t.wiring.filter fun _ w => w.port.role ≠ role := by
  have stale (k : SlotKey) : k ∈ (t.assignments.filter (·.port.role = role)).map Assignment.key ↔
      ∃ w, t.wiring.get? k = some w ∧ w.port.role = role := by
    simp only [List.mem_map, List.mem_filter, Session.mem_assignments, decide_eq_true_eq]
    constructor
    · rintro ⟨a, ⟨held, same⟩, rfl⟩
      obtain ⟨w, wired, shape⟩ := Option.map_eq_some_iff.1 held
      exact ⟨w, wired, (congrArg (·.port.role) shape).trans same⟩
    · rintro ⟨w, wired, same⟩
      refine ⟨w.assignment k, ⟨?_, same⟩, rfl⟩
      rw [Wiring.key_assignment, Session.assignment?, wired]
      rfl
  apply Table.ext
  intro k
  rw [Table.get?_foldl_erase, Table.get?_filter]
  cases held : t.wiring.get? k with
  | none => rw [ite_self]; rfl
  | some w => by_cases same : w.port.role = role <;> simp [stale, held, same, Option.filter]

/-- To take away the slots of a role one by one is to keep the others. -/
theorem split_selectBoard (c : Catalog) (t : Session) (role : Role) (id : Option String) :
    t.split.selectBoard c role id = splitting (t.selectBoard c role id) := by
  have swapped : ((((t.assignments.filter (·.port.role = role)).map Assignment.key).foldl
      (fun s k => (s.removeSlot k).1) t.split).setBoard role id) =
      { t with boards := t.boards.put role id, wiring := t.wiring.filter fun _ w => w.port.role ≠ role }.split := by
    rw [split_foldl_removeSlot, erase_stale]
    rfl
  unfold selectBoard Session.selectBoard
  simp only [split_values, split_boards, swapped, List.length_map]
  cases id with
  | none => simp only [splitting_ite, splitting_pure]
  | some id =>
    cases known : c.board id with
    | error e => simp only [known, error_bind, splitting_throw]
    | ok b => simp only [known, ok_bind, splitting_ite, splitting_pure]

theorem split_assign (c : Catalog) (t : Session) (f : PrinterFunction) (role : Role) (port : String) (slot : Slot) :
    t.split.assign c f role port slot = splitting (t.assign c f role port slot) := by
  have bound (p : Port) (pins : ResolvedPins) : t.split.insertAssignment ⟨f, slot, ⟨role, p.id⟩, p.category⟩ pins =
      { t with wiring := t.wiring.insert ⟨f, slot⟩ ⟨⟨role, p.id⟩, p.category, pins⟩ }.split :=
    split_insert t ⟨f, slot⟩ ⟨⟨role, p.id⟩, p.category, pins⟩
  unfold assign Session.assign
  simp only [split_isAssigned, split_registry, split_optionsOf, split_port?, split_boards, Session.board?, bound,
    split_putLocation, split_ite, splitting_ite, throw_bind, splitting_throw]
  -- Both sides now make the checks of the slot, and what comes after these stands behind each of them.
  cases t.boards.get? role with
  | none => simp only [splitting_throw]
  | some id =>
    cases known : c.board id with
    | error e => simp only [known, error_bind, splitting_throw]
    | ok b =>
      cases found : b.port? port with
      | none => simp only [known, ok_bind, found, splitting_throw]
      | some p =>
        simp only [known, ok_bind, found, splitting_ite, splitting_throw]
        cases t.registry.owner? role p.id with
        | some owner => simp only [splitting_ite, splitting_throw, splitting_pure]
        | none =>
          cases p.resolve f role (t.optionsOf f) with
          | error e => simp only [error_bind, splitting_throw]
          | ok pins => cases t.port? ⟨f, slot⟩ <;> simp only [ok_bind, splitting_pure]

theorem split_clear (t : Session) (f : PrinterFunction) (which : SlotChoice) :
    t.split.clear f which = ((t.clear f which).1.split, (t.clear f which).2) := by
  have apart (w : Table SlotKey Wiring) :
      (w.erase ⟨f, .primary⟩).contains ⟨f, .secondary⟩ = w.contains ⟨f, .secondary⟩ := by
    simp [Table.contains, Table.get?_erase]
  rw [clear, Session.clear]
  cases which with
  | secondary =>
    simp only [SlotChoice.slots, List.foldl_cons, List.foldl_nil, split_removeSlot, List.filter_cons, List.filter_nil]
    cases t.wiring.contains ⟨f, .secondary⟩ <;> rfl
  | primary | both =>
    simp only [SlotChoice.slots, List.foldl_cons, List.foldl_nil, split_removeSlot, apart, List.filter_cons,
      List.filter_nil]
    cases t.wiring.contains ⟨f, .primary⟩ <;> cases t.wiring.contains ⟨f, .secondary⟩ <;> rfl

theorem split_relocate (t : Session) (f : PrinterFunction) (role : Role) :
    t.split.relocate f role = ((t.relocate f role).1.split, (t.relocate f role).2) := by
  have locations : t.split.locations = t.locations := rfl
  unfold relocate Session.relocate
  simp only [locations, split_port?, split_clear, split_putLocation]
  split_ifs <;> rfl

theorem split_freePort (t : Session) (role : Role) (port : String) :
    t.split.freePort role port = ((t.freePort role port).1.split, (t.freePort role port).2) := by
  unfold freePort Session.freePort
  simp only [split_registry, split_clear]
  cases t.registry.owner? role port <;> rfl

private theorem split_refresh (c : Catalog) (t : Session) (o : PinOptions) (k : SlotKey) :
    t.split.refresh c o k = (t.rewire c o k).map fun x => x.map fun w => (k, w.pins) := by
  have held : t.split.assignments.get? k = (t.wiring.get? k).map (Wiring.assignment k) := by
    rw [Session.split, Table.get?_mapKeyed]
  unfold refresh Session.rewire
  rw [held, split_boards]
  cases t.wiring.get? k with
  | none => rfl
  | some w =>
    simp only [Option.map_some, Wiring.assignment, Session.board?]
    cases t.boards.get? w.port.role with
    | none => rfl
    | some id =>
      cases known : c.board id with
      | error e => simp only [known, error_bind]; rfl
      | ok b =>
        simp only [known, ok_bind]
        cases b.port? w.port.port with
        | none => rfl
        | some p =>
          cases resolved : p.resolve k.function w.port.role o with
          | error e => simp only [resolved]; rfl
          | ok pins => simp only [resolved]; rfl

private theorem split_replace {c : Catalog} {t : Session} {o : PinOptions} {k : SlotKey} {x : Option Wiring}
    (u : Session) (done : t.rewire c o k = .ok x) (same : u.wiring.get? k = t.wiring.get? k) :
    (x.map fun w => (k, w.pins)).toList.foldl (fun s p => s.replaceResolved p.1 p.2) u.split =
      { u with wiring := u.wiring.put k x }.split := by
  rcases Session.rewire_ok done with ⟨unwired, rfl⟩ | ⟨w, _, _, _, pins, wired, _, _, _, _, rfl⟩
  · have kept : u.wiring.put k none = u.wiring := by
      rw [← unwired, ← same, Table.put_get?]
    rw [kept]
    rfl
  · have kept : (u.wiring.put k (some { w with pins := pins })).mapKeyed Wiring.assignment =
        u.wiring.mapKeyed Wiring.assignment := by
      have assignment : (u.wiring.mapKeyed Wiring.assignment).get? k = some (w.assignment k) := by
        rw [Table.get?_mapKeyed, same, wired]
        rfl
      rw [← Table.mapKeyed_put, Option.map_some,
        show Wiring.assignment k { w with pins := pins } = w.assignment k from rfl, ← assignment, Table.put_get?]
    show u.split.replaceResolved k pins = _
    simp only [replaceResolved, Session.split, kept, ← Table.mapKeyed_put, Option.map_some, Table.insert]

theorem split_setOptions (c : Catalog) (t : Session) (f : PrinterFunction) (o : PinOptions) :
    t.split.setOptions c f o = (t.setOptions c f o).map Session.split := by
  unfold setOptions Session.setOptions
  simp only [List.mapM_cons, List.mapM_nil, split_refresh]
  cases first : t.rewire c o ⟨f, .primary⟩ with
  | error e => rfl
  | ok x =>
    cases second : t.rewire c o ⟨f, .secondary⟩ with
    | error e => rfl
    | ok y =>
      have list : List.filterMap id [x.map fun w => (⟨f, .primary⟩, w.pins), y.map fun w => (⟨f, .secondary⟩, w.pins)] =
          (x.map fun w => ((⟨f, .primary⟩ : SlotKey), w.pins)).toList ++
            (y.map fun w => ((⟨f, .secondary⟩ : SlotKey), w.pins)).toList := by
        cases x <;> cases y <;> rfl
      have apart : ((t.putOptions f o).wiring.put ⟨f, .primary⟩ x).get? ⟨f, .secondary⟩ =
          t.wiring.get? ⟨f, .secondary⟩ := Table.get?_put_of_ne (by simp)
      simp only [Except.map, ok_bind, pure_bind]
      rw [list, List.foldl_append, split_putOptions, split_replace (t.putOptions f o) first rfl,
        split_replace _ second apart]
      rfl

/-- An edit does to the two tables what it does to the one, and answers the same. -/
theorem split_perform (c : Catalog) (t : Session) (e : Edit) : t.split.perform c e = splitting (t.perform c e) := by
  cases e with
  | selectBoard role id =>
    rw [perform, Session.perform, split_selectBoard]
    cases t.selectBoard c role id <;> rfl
  | assign f role port slot =>
    rw [perform, Session.perform, split_assign]
    cases t.assign c f role port slot <;> rfl
  | clear f which =>
    rw [perform, Session.perform, split_clear]
    rfl
  | freePort role port =>
    rw [perform, Session.perform, split_freePort]
    rfl
  | relocate f role =>
    rw [perform, Session.perform, split_relocate]
    rfl
  | setOptions f o =>
    rw [perform, Session.perform, split_setOptions]
    cases t.setOptions c f o <;> rfl

/-! ## Restoring -/

/-- A restoration with its session parted. -/
private def parted (r : Restoration) : Replay := ⟨r.session.split, r.issues⟩

private theorem parted_take {α : Type} (r : Restoration) (fact : FactName) (x : Except WiringError (Session × α)) :
    (parted r).take fact (splitting x) = parted (r.take fact x) := by
  cases x <;> rfl

private theorem parted_board (c : Catalog) (d : Document) (r : Restoration) (role : Role) :
    (parted r).board c d role = parted (r.board c d role) := by
  unfold Replay.board Restoration.board
  cases d.boards.get? role with
  | none => rfl
  | some id =>
    show (parted r).take _ (r.session.split.selectBoard c role (some id)) = _
    rw [split_selectBoard, parted_take]

private theorem parted_record (c : Catalog) (r : Restoration) (p : PortRecord) :
    (parted r).record c p = parted (r.record c p) := by
  show (parted r).take _ (r.session.split.assign c p.function p.role p.port p.slot) = _
  rw [split_assign, parted_take]
  rfl

private theorem parted_location (r : Restoration) (p : PrinterFunction × Role) :
    (parted r).location p = parted (r.location p) := by
  unfold Replay.location Restoration.location
  rw [show (parted r).session = r.session.split from rfl, split_port?]
  cases r.session.port? ⟨p.1, .primary⟩ with
  | none => rfl
  | some port => by_cases here : port.role = p.2 <;> simp only [here, if_true, if_false] <;> rfl

/-- A document is restored to the halves of what it is restored to. -/
theorem split_restore (c : Catalog) (d : Document) :
    restore c d = ((Session.restore c d).1.split, (Session.restore c d).2) := by
  have start : (⟨{ empty with settings := d.settings }, []⟩ : Replay) =
      parted ⟨{ Session.empty with settings := d.settings }, []⟩ := by
    rw [parted, ← split_empty]
    rfl
  have optioned (r : Restoration) : ({ parted r with
      session := d.options.toList.foldl (fun s p => s.putOptions p.1 p.2) (parted r).session } : Replay) =
      parted { r with session := d.options.toList.foldl (fun s p => s.putOptions p.1 p.2) r.session } := by
    rw [parted, List.foldl_hom Session.split fun t p => split_putOptions t p.1 p.2]
    rfl
  unfold restore Session.restore
  simp only [start, List.foldl_hom parted (parted_board c d), optioned, List.foldl_hom parted (parted_record c),
    List.foldl_hom parted parted_location]
  rfl

/-! ## Histories -/

/-- The session after an operation. -/
def after (c : Catalog) (s : SplitSession) : Operation → SplitSession
  | .edit e =>
    match s.perform c e with
    | .ok (t, _) => t
    | .error _ => s
  | .restore d => (restore c d).1
  | .set key value =>
    match s.settings.setNamed key value with
    | .ok (some settings) => { s with settings := settings }
    | _ => s
  | .unset key =>
    match s.settings.unsetNamed key with
    | some settings => { s with settings := settings }
    | none => s
  | .settle settings => { s with settings := settings }

/-- What operations over one catalog make of the empty session. -/
def reached (c : Catalog) (ops : List Operation) : SplitSession := ops.foldl (after c) empty

/-- An operation does to the two tables what it does to the one. -/
theorem after_split (c : Catalog) (t : Session) (op : Operation) : t.split.after c op = (t.after c op).split := by
  have settings : t.split.settings = t.settings := rfl
  cases op with
  | edit e =>
    rw [after, Session.after, split_perform]
    cases t.perform c e <;> rfl
  | restore d => rw [after, Session.after, split_restore]
  | set key value =>
    rw [after, Session.after, settings]
    rcases t.settings.setNamed key value with _ | _ | _ <;> rfl
  | unset key =>
    rw [after, Session.after, settings]
    cases t.settings.unsetNamed key <;> rfl
  | settle settings => rfl

/-- Whatever operations make of the empty session, the two tables are the halves of the one. -/
theorem reached_split (c : Catalog) (ops : List Operation) : reached c ops = (Session.reached c ops).split := by
  rw [reached, ← split_empty, List.foldl_hom Session.split (after_split c), Session.reached]

/-- Operations keep two tables in lockstep. -/
theorem Lockstep.after (lock : s.Lockstep) (op : Operation) : (s.after c op).Lockstep := by
  obtain ⟨t, rfl⟩ := lockstep_iff.1 lock
  rw [after_split]
  exact lockstep_split _

theorem lockstep_reached (c : Catalog) (ops : List Operation) : (reached c ops).Lockstep :=
  List.foldlRecOn _ _ (split_empty ▸ lockstep_split _) fun _ lock op _ => lock.after op

/-- Whatever operations make of the empty session, pins are held for exactly the slots that have a port, and the
assignment at a slot names that slot. The board selected for the role of an assigned port is known and has that port,
with the same id and category, and the pins held are those that it resolves to for the function, with that role and
under the options that the function has now. The tables are those of the session with one table for both. -/
theorem reached_in_lockstep (c : Catalog) (ops : List Operation) :
    reached c ops = (Session.reached c ops).split ∧ ∀ k,
      (((reached c ops).resolved.get? k).isSome ↔ ((reached c ops).assignments.get? k).isSome) ∧
      ∀ a, (reached c ops).assignments.get? k = some a → a.key = k ∧ ∃ id b p pins,
        (reached c ops).boards.get? a.port.role = some id ∧ c.board id = .ok b ∧ b.port? a.port.port = some p ∧
        p.id = a.port.port ∧ p.category = a.category ∧ (reached c ops).resolved.get? k = some pins ∧
        p.resolve k.function a.port.role ((reached c ops).optionsOf k.function) = .ok pins := by
  have lock := lockstep_reached c ops
  refine ⟨reached_split c ops, fun k => ⟨lock.held k, fun a held => ⟨lock.keyed k a held, ?_⟩⟩⟩
  rw [reached_split] at held ⊢
  rw [split_assignment?] at held
  obtain ⟨id, b, p, pins, selected, known, found, own, category, cached, resolved⟩ :=
    (Session.reached_coherent c ops k).2 a held
  exact ⟨id, b, p, pins, selected, known, found, own, category, by rw [split_pins?, cached], resolved⟩

end SplitSession

end PrinterWiring
