import PrinterWiring.Proofs.Session.Coherence
import PrinterWiring.Proofs.Session.Exclusive
import PrinterWiring.Proofs.Session.Pairing
import PrinterWiring.Session.Document

/-!
# Restoring a session from its own document

A session that is paired and has what every reachable session has (`Sound`) is restored from its own document as it
was, and nothing is reported (`restore_toDocument`): slot by slot, primary ports first, the parts of it that are
restored so far (`part`) take in the next port.
-/

namespace PrinterWiring

namespace Session

/-- A function with a primary port is placed on the board of that port. -/
def Located (s : Session) : Prop := ∀ f a, s.port? ⟨f, .primary⟩ = some a → s.locations.get? f = some a.role

/-- Standard pin options are not recorded. -/
def Marked (s : Session) : Prop := ∀ f o, s.options.get? f = some o → o.isStandard = false

/-- What every reachable session has. -/
structure Sound (c : Catalog) (s : Session) : Prop where
  coherent : s.Coherent c
  exclusive : s.Exclusive
  sorted : s.WellSorted
  located : s.Located
  marked : s.Marked

variable {c : Catalog} {s t : Session}

/-! ## What reachable sessions have -/

private theorem wire_located {k : SlotKey} {w : Wiring} (located : s.Located) : (s.wire k w).Located := by
  intro f a held
  rw [wire_port?] at held
  rw [wire_locations]
  split_ifs at held with here
  · subst here
    cases held
    rw [if_pos rfl, Table.get?_insert, if_pos rfl]
  · have kept := located f a held
    split_ifs with primary
    · have apart : f ≠ k.function := by
        rintro rfl
        exact here (by rw [← primary])
      rw [Table.get?_insert, if_neg apart, kept]
    · exact kept

/-- Changes and swaps of boards leave primary ports where their functions are placed. -/
theorem invariant_located (c : Catalog) : Invariant c Located where
  fresh fresh f a held := by simp [fresh.port?] at held
  stable s t located change := by
    cases change with
    | wired fits => exact wire_located located
    | cleared f which =>
      intro g a held
      rw [clear_port?] at held
      split_ifs at held
      exact located g a held
    | @placed f role agrees =>
      intro g a held
      show (s.locations.insert f role).get? g = some a.role
      rw [Table.get?_insert]
      split_ifs with same
      · rw [agrees a (same ▸ held)]
      · exact located g a held
    | optioned done =>
      intro f a held
      rw [done.locations]
      exact located f a (done.port? _ ▸ held)
    | settled _ => exact located
  swap located _ f a held := by
    rw [swapBoard_port?, Option.filter_eq_some_iff] at held
    exact located f a held.1

private theorem invariant_marked (c : Catalog) : Invariant c Marked where
  fresh fresh := fresh.marked
  stable s t marked change f o held := by
    cases change with
    | wired fits =>
      rw [wire_options] at held
      exact marked f o held
    | cleared _ _ => exact marked f o held
    | placed _ => exact marked f o held
    | @optioned g o' _ done =>
      rw [done.options, putOptions, Table.get?_put] at held
      split_ifs at held with same standard
      · cases held
        simpa using standard
      · exact marked f o held
    | settled _ => exact marked f o held
  swap marked _ := marked

/-- Changes and swaps of boards leave a session sound. -/
theorem invariant_sound (c : Catalog) : Invariant c (Sound c) where
  fresh fresh :=
    ⟨(invariant_coherent c).fresh fresh, (invariant_exclusive c).fresh fresh, (invariant_wellSorted c).fresh fresh,
      (invariant_located c).fresh fresh, (invariant_marked c).fresh fresh⟩
  stable s t sound change :=
    ⟨(invariant_coherent c).stable s t sound.coherent change, (invariant_exclusive c).stable s t sound.exclusive change,
      (invariant_wellSorted c).stable s t sound.sorted change, (invariant_located c).stable s t sound.located change,
      (invariant_marked c).stable s t sound.marked change⟩
  swap sound known :=
    ⟨(invariant_coherent c).swap sound.coherent known, (invariant_exclusive c).swap sound.exclusive known,
      (invariant_wellSorted c).swap sound.sorted known, (invariant_located c).swap sound.located known,
      (invariant_marked c).swap sound.marked known⟩

/-! ## Parts of a session -/

/-- The part of a session with the given slots only, and with their functions only placed. -/
def part (s : Session) (done : SlotKey → Bool) : Session :=
  { s with
    wiring := s.wiring.filter fun k _ => done k
    locations := s.locations.filter fun f _ => done ⟨f, .primary⟩ && s.isAssigned f }

private theorem part_get? (done : SlotKey → Bool) (k : SlotKey) :
    (s.part done).wiring.get? k = if done k then s.wiring.get? k else none := by
  rw [part, Table.get?_filter]
  cases s.wiring.get? k <;> cases done k <;> rfl

private theorem part_port? (done : SlotKey → Bool) (k : SlotKey) :
    (s.part done).port? k = if done k then s.port? k else none := by
  rw [port?, part_get?]
  split_ifs <;> rfl

private theorem part_locations (done : SlotKey → Bool) (f : PrinterFunction) :
    (s.part done).locations.get? f =
      if done ⟨f, .primary⟩ && s.isAssigned f then s.locations.get? f else none := by
  rw [part, Table.get?_filter]
  cases s.locations.get? f <;> cases done ⟨f, .primary⟩ <;> cases s.isAssigned f <;> rfl

/-- A wiring of a session fits the parts of it that have not taken it in, as soon as they have its primary port. -/
theorem fits_part (sound : s.Sound c) (paired : s.Paired) {done : SlotKey → Bool} {k : SlotKey} {w : Wiring}
    (held : s.wiring.get? k = some w) (new : done k = false)
    (ready : k.slot = .secondary → done ⟨k.function, .primary⟩ = true) : (s.part done).Fits c k w := by
  have port : s.port? k = some w.port := by rw [port?, held]; rfl
  have backed : (s.part done).Backed c k w := by
    have options : (s.part done).optionsOf k.function = s.optionsOf k.function := by simp only [optionsOf, part]
    have board : (s.part done).board? w.port.role = s.board? w.port.role := by simp only [board?, part]
    exact .congr board options (sound.coherent.backed k w held)
  have allowed : k.slot = .secondary → k.function.allowsSecondary = true ∧ (s.part done).isAssigned k.function = true := by
    intro secondary
    have own : k = ⟨k.function, .secondary⟩ := by rw [← secondary]
    obtain ⟨allows, assigned⟩ := paired k.function w.port (own ▸ port)
    refine ⟨allows, ?_⟩
    rw [isAssigned_iff] at assigned ⊢
    simpa [part_port?, ready secondary] using assigned
  have free : (s.part done).registry.owner? w.port.role w.port.port = none := by
    cases owned : (s.part done).registry.owner? w.port.role w.port.port with
    | none => rfl
    | some j =>
      obtain ⟨a, taken, role, letters⟩ := port?_of_owner? owned
      rw [part_port?] at taken
      split_ifs at taken with there
      rw [sound.exclusive j k a w.port taken port role letters, new] at there
      cases there
  exact ⟨allowed, backed, sound.sorted k w held, free⟩

theorem ext_of_parts {u v : Session} (boards : u.boards = v.boards) (wiring : u.wiring = v.wiring)
    (options : u.options = v.options) (locations : u.locations = v.locations) (settings : u.settings = v.settings) :
    u = v := by
  cases u
  cases v
  simp only at boards wiring options locations settings
  subst boards wiring options locations settings
  rfl

/-- Taking in one more wiring makes the part that has its slot as well. -/
theorem part_wire (located : s.Located) (done : SlotKey → Bool) {k : SlotKey} {w : Wiring}
    (held : s.wiring.get? k = some w) : (s.part done).wire k w = s.part fun j => done j || j = k := by
  have wiring : ((s.part done).wire k w).wiring = (s.part fun j => done j || j = k).wiring := by
    refine Table.ext fun j => ?_
    rw [wire_wiring, Table.get?_insert, part_get?, part_get?]
    by_cases same : j = k
    · simp [same, held]
    · simp [same]
  have locations : ((s.part done).wire k w).locations = (s.part fun j => done j || j = k).locations := by
    refine Table.ext fun f => ?_
    rw [wire_locations]
    by_cases primary : k.slot = .primary
    · have own : k = ⟨k.function, .primary⟩ := by rw [← primary]
      have port : s.port? ⟨k.function, .primary⟩ = some w.port := by rw [← own, port?, held]; rfl
      rw [if_pos primary, Table.get?_insert, part_locations, part_locations]
      by_cases same : f = k.function
      · have assigned : s.isAssigned f = true := isAssigned_iff.mpr ⟨w.port, same ▸ port⟩
        have placed := located k.function w.port port
        simp [same ▸ assigned, same, placed, ← own]
      · have apart : (⟨f, .primary⟩ : SlotKey) ≠ k := by
          rintro rfl
          exact same rfl
        simp [same, apart]
    · have apart : (⟨f, .primary⟩ : SlotKey) ≠ k := by
        rintro rfl
        exact primary rfl
      rw [if_neg primary, part_locations, part_locations]
      simp [apart]
  exact ext_of_parts (wire_boards ..) wiring (wire_options ..) locations (wire_settings ..)

/-! ## Boards and options -/

/-- A session in which nothing is wired or placed. -/
def bare (boards : Table Role String) (options : Table PrinterFunction PinOptions) (settings : Settings) : Session :=
  ⟨boards, .empty, options, .empty, settings⟩

private theorem swapBoard_bare (boards : Table Role String) (settings : Settings) (role : Role) (id : Option String) :
    (bare boards .empty settings).swapBoard role id = bare (boards.put role id) .empty settings := by
  have unwired : Table.empty.filter (fun _ (w : Wiring) => w.port.role ≠ role) = (.empty : Table SlotKey Wiring) :=
    Table.ext fun k => by simp
  simp only [swapBoard, bare, unwired]

private theorem board_bare {d : Document} {boards : Table Role String} {role : Role}
    (known : Known c (d.boards.get? role)) (unselected : boards.get? role = none) :
    Restoration.board c d ⟨bare boards .empty d.settings, []⟩ role =
      ⟨bare (boards.put role (d.boards.get? role)) .empty d.settings, []⟩ := by
  unfold Restoration.board
  cases given : d.boards.get? role with
  | none => rw [← unselected, Table.put_get?, unselected]
  | some id =>
    have other : (bare boards .empty d.settings).board? role ≠ some id := by simp [board?, bare, unselected]
    obtain ⟨n, done⟩ := selectBoard_ok_iff.mpr ⟨given ▸ known, (if_neg other).symm⟩
    simp only [done, Restoration.take, swapBoard_bare]

/-- The boards of a document are selected if the catalog has them. -/
theorem selected_of_known {d : Document} (known : ∀ role, Known c (d.boards.get? role)) :
    Restoration.selected c d = ⟨bare d.boards .empty d.settings, []⟩ := by
  have boards : (Table.empty.put .mainboard (d.boards.get? .mainboard)).put .toolboard (d.boards.get? .toolboard) =
      d.boards := by
    refine Table.ext fun role => ?_
    cases role <;> simp [Table.get?_put]
  have first : Restoration.board c d ⟨bare .empty .empty d.settings, []⟩ .mainboard =
      ⟨bare (Table.empty.put .mainboard (d.boards.get? .mainboard)) .empty d.settings, []⟩ :=
    board_bare (known .mainboard) (Table.get?_empty _)
  have other : (Table.empty.put Role.mainboard (d.boards.get? .mainboard)).get? .toolboard = none := by
    simp [Table.get?_put]
  have second := board_bare (known .toolboard) other
  rw [boards, ← first] at second
  exact second

private theorem foldl_putOptions {ps : List (PrinterFunction × PinOptions)} (marked : ∀ p ∈ ps, p.2.isStandard = false)
    (s : Session) :
    ps.foldl (fun s p => s.putOptions p.1 p.2) s =
      { s with options := ps.foldl (fun t p => t.insert p.1 p.2) s.options } := by
  induction ps generalizing s with
  | nil => rfl
  | cons p ps ih =>
    obtain ⟨here, rest⟩ := List.forall_mem_cons.mp marked
    rw [List.foldl_cons, ih rest, List.foldl_cons]
    simp only [putOptions, here, Bool.false_eq_true, if_false, Table.insert]

/-- The pin options of a document are set, unless they are standard. -/
theorem optioned_of_known {d : Document} (known : ∀ role, Known c (d.boards.get? role))
    (marked : ∀ f o, d.options.get? f = some o → o.isStandard = false) :
    Restoration.optioned c d = ⟨bare d.boards d.options d.settings, []⟩ := by
  have options : d.options.toList.foldl (fun t p => t.insert p.1 p.2) .empty = d.options := by
    refine Table.ext fun f => ?_
    rw [Table.get?_foldl_insert_toList, Table.get?_empty, Option.or_none]
  have each : ∀ p ∈ d.options.toList, p.2.isStandard = false := fun p listed => marked p.1 p.2 (Table.mem_toList.mp listed)
  simp only [Restoration.optioned, selected_of_known known, foldl_putOptions each, bare, options]

/-! ## Ports -/

theorem mem_toDocument_records {r : PortRecord} :
    r ∈ s.toDocument.records ↔ s.port? r.key = some ⟨r.role, r.port⟩ := by
  simp only [toDocument, assignments, List.mem_map, List.mem_filterMap, Enumerated.mem_all, true_and, assignment?,
    Option.map_eq_some_iff, port?]
  constructor
  · rintro ⟨_, ⟨k, w, held, rfl⟩, rfl⟩
    exact ⟨w, held, rfl⟩
  · rintro ⟨w, held, same⟩
    exact ⟨_, ⟨r.key, w, held, rfl⟩, by rw [same]; rfl⟩

/-- Records of a session are taken in one by one by a part of it that has none of them, but has the primary port
of each secondary one. -/
private theorem foldl_record (sound : s.Sound c) (paired : s.Paired) {rs : List PortRecord} {done : SlotKey → Bool}
    (own : ∀ r ∈ rs, s.port? r.key = some ⟨r.role, r.port⟩) (distinct : (rs.map PortRecord.key).Nodup)
    (new : ∀ r ∈ rs, done r.key = false)
    (ready : ∀ r ∈ rs, r.slot = .secondary → done ⟨r.function, .primary⟩ = true) :
    rs.foldl (Restoration.record c) ⟨s.part done, []⟩ =
      ⟨s.part fun k => done k || k ∈ rs.map PortRecord.key, []⟩ := by
  induction rs generalizing done with
  | nil => simp
  | cons r rs ih =>
    obtain ⟨apart, others⟩ := List.nodup_cons.mp distinct
    obtain ⟨w, held, port⟩ := Option.map_eq_some_iff.mp (own r (List.mem_cons_self ..))
    have fits := fits_part sound paired held (new r (List.mem_cons_self ..)) (ready r (List.mem_cons_self ..))
    obtain ⟨result, assigned⟩ := assign_of_fits fits
    rw [port] at assigned
    have step : Restoration.record c ⟨s.part done, []⟩ r = ⟨s.part fun k => done k || k = r.key, []⟩ := by
      rw [← part_wire sound.located done held, Restoration.record]
      exact congrArg (Restoration.take _ _) assigned
    rw [List.foldl_cons, step, ih]
    · simp only [List.map_cons, List.mem_cons, Bool.decide_or, Bool.or_assoc]
    · exact fun q later => own q (List.mem_cons_of_mem _ later)
    · exact others
    · intro q later
      have other : q.key ≠ r.key := fun same => apart (same ▸ List.mem_map_of_mem later)
      simp [new q (List.mem_cons_of_mem _ later), other]
    · intro q later secondary
      simp [ready q (List.mem_cons_of_mem _ later) secondary]

/-- The records of a session are one for each slot that has a port, in the order of the slots. -/
theorem toDocument_keys (s : Session) :
    s.toDocument.records.map PortRecord.key = (Enumerated.all : List SlotKey).filter fun k => (s.port? k).isSome := by
  rw [toDocument, assignments, List.map_map, List.map_filterMap, ← List.filterMap_eq_filter]
  refine List.filterMap_congr fun k _ => ?_
  simp only [assignment?, Option.guard, port?, Option.map_map, Option.isSome_map]
  cases s.wiring.get? k with
  | none => rfl
  | some w => simp; rfl

private theorem mem_keys_in {slot : Slot} {k : SlotKey} :
    k ∈ (s.toDocument.records.filter (·.slot = slot)).map PortRecord.key ↔ k.slot = slot ∧ ∃ a, s.port? k = some a := by
  simp only [List.mem_map, List.mem_filter, decide_eq_true_eq, mem_toDocument_records]
  constructor
  · rintro ⟨r, ⟨held, here⟩, rfl⟩
    exact ⟨here, _, held⟩
  · rintro ⟨here, a, held⟩
    exact ⟨⟨k.function, k.slot, a.role, a.port⟩, ⟨held, here⟩, rfl⟩

/-- Primary ports first, all ports of a session are taken in. -/
theorem foldl_wiringOrder (sound : s.Sound c) (paired : s.Paired) :
    s.toDocument.wiringOrder.foldl (Restoration.record c) ⟨s.part fun _ => false, []⟩ =
      ⟨s.part fun k => (s.port? k).isSome, []⟩ := by
  have own (slot : Slot) : ∀ r ∈ s.toDocument.records.filter (·.slot = slot), s.port? r.key = some ⟨r.role, r.port⟩ :=
    fun r inside => mem_toDocument_records.mp (List.mem_of_mem_filter inside)
  have distinct (slot : Slot) : ((s.toDocument.records.filter (·.slot = slot)).map PortRecord.key).Nodup := by
    have whole : (s.toDocument.records.map PortRecord.key).Nodup := by
      rw [toDocument_keys]
      exact Enumerated.nodup.filter _
    exact whole.sublist (List.filter_sublist.map _)
  rw [Document.wiringOrder, List.foldl_append, foldl_record sound paired (own .primary) (distinct .primary),
    foldl_record sound paired (own .secondary) (distinct .secondary)]
  · congr 2
    funext k
    rw [Bool.eq_iff_iff]
    cases here : k.slot <;> simp [mem_keys_in, here, Option.isSome_iff_exists]
  · intro r inside
    have here : r.slot = .secondary := by simpa using (List.mem_filter.mp inside).2
    simp [mem_keys_in, PortRecord.key, here]
  · intro r inside secondary
    obtain ⟨_, assigned⟩ := paired r.function ⟨r.role, r.port⟩ (by rw [← secondary]; exact own .secondary r inside)
    simp [mem_keys_in, isAssigned_iff.mp assigned]
  · exact fun _ _ => rfl
  · intro r inside secondary
    have here : r.slot = .primary := by simpa using (List.mem_filter.mp inside).2
    rw [here] at secondary
    cases secondary

/-! ## Locations -/

/-- Functions are placed where their primary ports do not contradict it. -/
private theorem foldl_location {ps : List (PrinterFunction × Role)}
    (agree : ∀ p ∈ ps, ∀ a, s.port? ⟨p.1, .primary⟩ = some a → a.role = p.2) (locations : Table PrinterFunction Role) :
    ps.foldl Restoration.location ⟨{ s with locations := locations }, []⟩ =
      ⟨{ s with locations := ps.foldl (fun t p => t.insert p.1 p.2) locations }, []⟩ := by
  induction ps generalizing locations with
  | nil => rfl
  | cons p ps ih =>
    obtain ⟨here, rest⟩ := List.forall_mem_cons.mp agree
    have step : Restoration.location ⟨{ s with locations := locations }, []⟩ p =
        ⟨{ s with locations := locations.insert p.1 p.2 }, []⟩ := by
      have port : port? { s with locations := locations } ⟨p.1, .primary⟩ = s.port? ⟨p.1, .primary⟩ := by
        simp only [port?]
      simp only [Restoration.location, port]
      cases held : s.port? ⟨p.1, .primary⟩ with
      | none => rfl
      | some a => simp only [here a held, if_true, putLocation]
    rw [List.foldl_cons, step, ih rest, List.foldl_cons]

/-! ## The whole session -/

/-- The document of a session has its pin options. -/
theorem options_toDocument (marked : s.Marked) : s.toDocument.options = s.options := by
  refine Table.ext fun f => ?_
  rw [toDocument, Table.get?_filter]
  cases held : s.options.get? f with
  | none => rfl
  | some o => simp [Option.filter, marked f o held]

private theorem bare_eq_part : bare s.boards s.options s.settings = s.part fun _ => false := by
  have wiring : Table.empty = (s.part fun _ => false).wiring :=
    Table.ext fun k => by rw [part_get?, Table.get?_empty, if_neg Bool.false_ne_true]
  have locations : Table.empty = (s.part fun _ => false).locations :=
    Table.ext fun f => by rw [part_locations, Table.get?_empty, Bool.false_and, if_neg Bool.false_ne_true]
  exact ext_of_parts rfl wiring rfl locations rfl

/-- The part with all wired slots lacks nothing of a session but the locations of functions without a primary port. -/
private theorem part_wired :
    (s.part fun k => (s.port? k).isSome) = { s with locations := s.locations.filter fun f _ => s.isAssigned f } := by
  have wiring : (s.wiring.filter fun k _ => (s.port? k).isSome) = s.wiring := by
    refine Table.ext fun k => ?_
    rw [Table.get?_filter, port?]
    cases s.wiring.get? k <;> rfl
  have placed (f : PrinterFunction) : ((s.port? ⟨f, .primary⟩).isSome && s.isAssigned f) = s.isAssigned f := by
    rw [Bool.eq_iff_iff]
    simp [isAssigned_iff, Option.isSome_iff_exists]
  simp only [part, wiring, placed]

private theorem foldl_locations (located : s.Located) :
    s.locations.toList.foldl Restoration.location ⟨s.part fun k => (s.port? k).isSome, []⟩ = ⟨s, []⟩ := by
  have agree : ∀ p ∈ s.locations.toList, ∀ a, s.port? ⟨p.1, .primary⟩ = some a → a.role = p.2 := by
    intro p listed a held
    have here := Table.mem_toList.mp listed
    rw [located p.1 a held] at here
    exact Option.some.inj here
  have whole : s.locations.toList.foldl (fun t p => t.insert p.1 p.2) (s.locations.filter fun f _ => s.isAssigned f) =
      s.locations := by
    refine Table.ext fun f => ?_
    rw [Table.get?_foldl_insert_toList, Table.get?_filter]
    cases s.locations.get? f <;> rfl
  rw [part_wired, foldl_location agree, whole]

/-- A paired session is restored from its own document as it was. -/
theorem restore_toDocument (sound : s.Sound c) (paired : s.Paired) : restore c s.toDocument = (s, []) := by
  have options := options_toDocument sound.marked
  have optioned : Restoration.optioned c s.toDocument = ⟨s.part fun _ => false, []⟩ := by
    rw [optioned_of_known sound.coherent.known (options ▸ sound.marked), options, ← bare_eq_part]
    simp only [toDocument]
  have wired : Restoration.wired c s.toDocument = ⟨s.part fun k => (s.port? k).isSome, []⟩ := by
    rw [Restoration.wired, optioned, foldl_wiringOrder sound paired]
  have locations : s.toDocument.locations = s.locations := by simp only [toDocument]
  have placed : Restoration.placed c s.toDocument = ⟨s, []⟩ := by
    rw [Restoration.placed, wired, locations, foldl_locations sound.located]
  rw [Restoration.restore_eq, placed]

end Session

end PrinterWiring
