import PrinterWiring.Proofs.Session.Replay

/-!
# Records in any order

Of records that name different slots and different ports, each finds its port free, whichever were taken in before.
Then what becomes of a record depends on the boards, the options and, for a secondary port, on whether its function has
a primary one, and these are settled before its turn. So the order of the records in a document does not matter
(`restore_perm`).
-/

namespace PrinterWiring

/-- Two records name one port, up to the letter case of its id. -/
def PortRecord.SamePort (p q : PortRecord) : Prop := p.role = q.role ∧ Text.SameLetters p.port q.port

instance (p q : PortRecord) : Decidable (p.SamePort q) :=
  inferInstanceAs (Decidable (p.role = q.role ∧ Text.lower p.port = Text.lower q.port))

theorem PortRecord.SamePort.symm {p q : PortRecord} (same : p.SamePort q) : q.SamePort p := ⟨same.1.symm, same.2.symm⟩

namespace Session

/-- No slot has the port that a record names. -/
def Free (s : Session) (p : PortRecord) : Prop :=
  ∀ k a, s.port? k = some a → ¬ (a.role = p.role ∧ Text.SameLetters a.port p.port)

/-- What a record wires to its slot, if its port is free. -/
def wiringFor (c : Catalog) (s : Session) (p : PortRecord) : Except WiringError Wiring := do
  s.admits p.function p.slot
  let port ← s.offered c p.function p.role p.port
  let pins ← port.resolve p.function p.role (s.optionsOf p.function)
  return ⟨⟨p.role, port.id⟩, port.category, pins⟩

/-- Takes in a record, as far as another session has a wiring for it. -/
def takeIn (c : Catalog) (before s : Session) (p : PortRecord) : Session :=
  match before.wiringFor c p with
  | .ok w => s.wire p.key w
  | .error _ => s

/-- The issue of a record that a session has no wiring for. -/
def refusal? (c : Catalog) (before : Session) (p : PortRecord) : Option RestoreIssue :=
  match before.wiringFor c p with
  | .ok _ => none
  | .error e => some ⟨.port p.key, e⟩

variable {c : Catalog} {s t before : Session} {p q : PortRecord}

/-! ## One record -/

private theorem wiringFor_port {w : Wiring} (found : s.wiringFor c p = .ok w) :
    w.port.role = p.role ∧ Text.SameLetters w.port.port p.port := by
  simp only [wiringFor, bind_eq_ok] at found
  obtain ⟨_, _, port, offers, pins, _, same⟩ := found
  obtain ⟨_, b, _, _, held, _⟩ := offered_ok.mp offers
  cases same
  exact ⟨rfl, Board.port?_sameLetters held⟩

/-- A record with a free port is taken in with its wiring, or it is refused and changes nothing. -/
theorem record_of_free {r : Restoration} (free : r.session.Free p) :
    r.record c p = ⟨takeIn c r.session r.session p, r.issues ++ (refusal? c r.session p).toList⟩ := by
  unfold Restoration.record
  rw [assign_eq]
  unfold takeIn refusal? wiringFor
  cases r.session.admits p.function p.slot with
  | error e => rfl
  | ok _ =>
    cases offers : r.session.offered c p.function p.role p.port with
    | error e => rfl
    | ok port =>
      obtain ⟨_, b, _, _, held, _⟩ := offered_ok.mp offers
      have letters := Board.port?_sameLetters held
      have unowned : r.session.registry.owner? p.role port.id = none := by
        cases owned : r.session.registry.owner? p.role port.id with
        | none => rfl
        | some k =>
          obtain ⟨a, taken, role, same⟩ := port?_of_owner? owned
          exact absurd ⟨role, same.trans letters⟩ (free k a taken)
      simp only [bind, Except.bind, claim, unowned]
      cases port.resolve p.function p.role (r.session.optionsOf p.function) with
      | error e => rfl
      | ok pins => simp [Restoration.take, pure, Except.pure, PortRecord.key]

private theorem wiringFor_congr (boards : t.boards = s.boards) (options : t.options = s.options)
    (assigned : p.slot = .secondary → t.isAssigned p.function = s.isAssigned p.function) :
    t.wiringFor c p = s.wiringFor c p := by
  have admits : t.admits p.function p.slot = s.admits p.function p.slot := by
    unfold admits
    split_ifs with second _ first first
    all_goals simp_all
  simp only [wiringFor, admits, offered, board?, optionsOf, boards, options]

/-- Wiring a slot changes nothing for the other slots of its kind. -/
theorem wiringFor_wire {k : SlotKey} {w : Wiring} (kind : k.slot = p.slot) :
    (s.wire k w).wiringFor c p = s.wiringFor c p := by
  refine wiringFor_congr (wire_boards ..) (wire_options ..) fun second => ?_
  have other : (⟨p.function, .primary⟩ : SlotKey) ≠ k := by
    rintro rfl
    rw [← kind] at second
    cases second
  simp only [isAssigned, Table.contains, wire_wiring, Table.get?_insert, if_neg other]

private theorem takeIn_free (apart : ¬ p.SamePort q) (free : s.Free q) : (takeIn c before s p).Free q := by
  unfold takeIn
  cases found : before.wiringFor c p with
  | error e => exact free
  | ok w =>
    intro k a held
    rw [wire_port?] at held
    split_ifs at held
    · cases held
      obtain ⟨role, letters⟩ := wiringFor_port found
      exact fun same => apart ⟨role.symm.trans same.1, letters.symm.trans same.2⟩
    · exact free k a held

private theorem wiringFor_takeIn (kind : p.slot = q.slot) : (takeIn c before s p).wiringFor c q = s.wiringFor c q := by
  unfold takeIn
  cases before.wiringFor c p with
  | error e => rfl
  | ok w => exact wiringFor_wire kind

/-! ## Two records -/

/-- Two slots are wired in any order. -/
theorem wire_comm {k j : SlotKey} (apart : k ≠ j) (v w : Wiring) :
    (s.wire k v).wire j w = (s.wire j w).wire k v := by
  have wiring : ((s.wire k v).wire j w).wiring = ((s.wire j w).wire k v).wiring := by
    simp only [wire_wiring]
    exact Table.put_comm _ apart _ _
  have locations : ((s.wire k v).wire j w).locations = ((s.wire j w).wire k v).locations := by
    simp only [wire_locations]
    split_ifs with second first
    · have others : k.function ≠ j.function := fun same =>
        apart (show SlotKey.mk k.function k.slot = ⟨j.function, j.slot⟩ by rw [same, first, second])
      exact Table.put_comm _ others _ _
    all_goals rfl
  exact ext_of_parts (by simp) wiring (by simp) locations (by simp)

/-- Two records of different slots are taken in in any order. -/
theorem takeIn_comm (apart : p.key ≠ q.key) :
    takeIn c before (takeIn c before s p) q = takeIn c before (takeIn c before s q) p := by
  unfold takeIn
  cases before.wiringFor c p with
  | error e => rfl
  | ok v =>
    cases before.wiringFor c q with
    | error e => rfl
    | ok w => exact wire_comm apart v w

/-! ## All records of a kind -/

section
variable {ps qs : List PortRecord}

private theorem foldl_takeIn_free (apart : ∀ p ∈ ps, ¬ p.SamePort q) (free : s.Free q) :
    (ps.foldl (takeIn c before) s).Free q :=
  List.foldlRecOn (motive := fun t : Session => t.Free q) _ _ free
    fun _ free p inside => takeIn_free (apart p inside) free

/-- Records for slots of one kind, with ports that are free and differ, are taken in or refused each as if it were the
only one. -/
theorem foldl_record_free {r : Restoration} {slot : Slot} (kind : ∀ p ∈ ps, p.slot = slot)
    (apart : ps.Pairwise fun p q => ¬ p.SamePort q) (free : ∀ p ∈ ps, r.session.Free p)
    (same : ∀ p ∈ ps, r.session.wiringFor c p = before.wiringFor c p) :
    ps.foldl (Restoration.record c) r =
      ⟨ps.foldl (takeIn c before) r.session, r.issues ++ ps.filterMap (refusal? c before)⟩ := by
  -- By induction: after a record, those behind it still have their ports free and their wirings.
  induction ps generalizing r with
  | nil => simp
  | cons p ps ih =>
    obtain ⟨others, apart⟩ := List.pairwise_cons.mp apart
    have first : r.record c p = ⟨takeIn c before r.session p, r.issues ++ (refusal? c before p).toList⟩ := by
      rw [record_of_free (free p (List.mem_cons_self ..)), takeIn, refusal?, same p (List.mem_cons_self ..)]
      rfl
    rw [List.foldl_cons, first, ih, List.foldl_cons]
    · cases refused : refusal? c before p <;> simp [refused]
    · exact fun q later => kind q (List.mem_cons_of_mem _ later)
    · exact apart
    · exact fun q later => takeIn_free (others q later) (free q (List.mem_cons_of_mem _ later))
    · intro q later
      have alike : p.slot = q.slot :=
        (kind p (List.mem_cons_self ..)).trans (kind q (List.mem_cons_of_mem _ later)).symm
      rw [wiringFor_takeIn alike, same q (List.mem_cons_of_mem _ later)]

/-- The order in which records for different slots are taken in does not matter. -/
theorem foldl_takeIn_perm (moved : qs.Perm ps) (slots : (ps.map PortRecord.key).Nodup) :
    qs.foldl (takeIn c before) s = ps.foldl (takeIn c before) s := by
  refine (moved.symm.foldl_eq' (fun p first q second t => ?_) s).symm
  by_cases same : p.key = q.key
  · rw [List.inj_on_of_nodup_map slots first second same]
  · exact takeIn_comm same

end

end Session

namespace Restoration

variable {c : Catalog} {d : Document}

/-- Two restorations with one session and the same issues, in any order. -/
def Alike (r r' : Restoration) : Prop := r'.session = r.session ∧ r'.issues.Perm r.issues

/-! ## All steps -/

/-- Records of one sort of slot that share no slot and no port are carried out in any order. -/
theorem Alike.foldl_record {r r' : Restoration} {slot : Slot} {ps qs : List PortRecord} (alike : r.Alike r')
    (moved : qs.Perm ps) (kind : ∀ p ∈ ps, p.slot = slot) (slots : (ps.map PortRecord.key).Nodup)
    (apart : ps.Pairwise fun p q => ¬ p.SamePort q) (free : ∀ p ∈ ps, r.session.Free p) :
    (ps.foldl (Restoration.record c) r).Alike (qs.foldl (Restoration.record c) r') := by
  obtain ⟨session, issues⟩ := r
  obtain ⟨session', issues'⟩ := r'
  obtain ⟨same, permuted⟩ := alike
  cases same
  have kind' : ∀ q ∈ qs, q.slot = slot := fun q inside => kind q (moved.subset inside)
  have apart' : qs.Pairwise fun p q => ¬ p.SamePort q :=
    (moved.pairwise_iff fun apart => mt PortRecord.SamePort.symm apart).mpr apart
  have free' : ∀ q ∈ qs, session.Free q := fun q inside => free q (moved.subset inside)
  rw [Session.foldl_record_free kind apart free fun _ _ => rfl,
    Session.foldl_record_free kind' apart' free' fun _ _ => rfl]
  exact ⟨Session.foldl_takeIn_perm moved slots, permuted.append (moved.filterMap _)⟩

private theorem slot_of_mem_filter {slot : Slot} :
    ∀ p ∈ d.records.filter (·.slot = slot), p.slot = slot := fun p inside => by
  simpa using (List.mem_filter.mp inside).2

private theorem optioned_free (p : PortRecord) : (optioned c d).session.Free p := by
  intro k a held
  rw [(optioned_fresh c d).port?] at held
  cases held

/-- A secondary port is free after the primary ones, since no record for these has it. -/
theorem secondary_free (ports : d.records.Pairwise fun p q => ¬ p.SamePort q) {q : PortRecord}
    (inside : q ∈ d.records.filter (·.slot = .secondary)) :
    ((d.records.filter (·.slot = .primary)).foldl (Restoration.record c) (optioned c d)).session.Free q := by
  rw [Session.foldl_record_free slot_of_mem_filter (ports.filter _) (fun p _ => optioned_free p) fun _ _ => rfl]
  refine Session.foldl_takeIn_free (fun p inside' => ?_) (optioned_free q)
  have other : p ≠ q := by
    rintro rfl
    exact absurd ((slot_of_mem_filter p inside').symm.trans (slot_of_mem_filter p inside)) (by decide)
  have symmetric : Std.Symm fun p q : PortRecord => ¬ p.SamePort q := ⟨fun _ _ apart => mt PortRecord.SamePort.symm apart⟩
  exact ports.forall (List.mem_of_mem_filter inside') (List.mem_of_mem_filter inside) other

/-- All records are carried out in any order if they share no slot and no port. -/
theorem Alike.wired {records : List PortRecord} (moved : records.Perm d.records)
    (slots : (d.records.map PortRecord.key).Nodup) (ports : d.records.Pairwise fun p q => ¬ p.SamePort q) :
    (Restoration.wired c d).Alike (Restoration.wired c { d with records := records }) := by
  have here (slot : Slot) : (records.filter (·.slot = slot)).Perm (d.records.filter (·.slot = slot)) := moved.filter _
  have distinct (slot : Slot) : ((d.records.filter (·.slot = slot)).map PortRecord.key).Nodup :=
    slots.sublist (List.filter_sublist.map _)
  have start : (optioned c d).Alike (optioned c { d with records := records }) := ⟨rfl, .refl _⟩
  have first := start.foldl_record (c := c) (here .primary) slot_of_mem_filter (distinct .primary) (ports.filter _)
    fun p _ => optioned_free p
  have both := first.foldl_record (c := c) (here .secondary) slot_of_mem_filter (distinct .secondary) (ports.filter _)
    fun q inside => secondary_free ports inside
  rwa [← List.foldl_append, ← List.foldl_append] at both

theorem Alike.location {r r' : Restoration} (alike : r.Alike r') (p : PrinterFunction × Role) :
    (r.location p).Alike (r'.location p) := by
  obtain ⟨session, issues⟩ := r
  obtain ⟨session', issues'⟩ := r'
  obtain ⟨same, moved⟩ := alike
  cases same
  unfold Restoration.location
  cases session.port? ⟨p.1, .primary⟩ with
  | none => exact ⟨rfl, moved⟩
  | some port =>
    simp only
    split_ifs
    · exact ⟨rfl, moved⟩
    · exact ⟨rfl, moved.append_right _⟩

theorem Alike.foldl_location {r r' : Restoration} (alike : r.Alike r') (ps : List (PrinterFunction × Role)) :
    (ps.foldl Restoration.location r).Alike (ps.foldl Restoration.location r') := by
  induction ps generalizing r r' with
  | nil => exact alike
  | cons p ps ih => exact ih (alike.location p)

end Restoration

namespace Session

/-- The order of records for different slots and different ports does not matter: the session is the same, and so are
the issues but for their order. -/
theorem restore_perm (c : Catalog) {d : Document} {records : List PortRecord} (moved : records.Perm d.records)
    (slots : (d.records.map PortRecord.key).Nodup) (ports : d.records.Pairwise fun p q => ¬ p.SamePort q) :
    (restore c { d with records := records }).1 = (restore c d).1 ∧
      (restore c { d with records := records }).2.Perm (restore c d).2 := by
  rw [Restoration.restore_eq, Restoration.restore_eq]
  exact (Restoration.Alike.wired moved slots ports).foldl_location d.locations.toList

/-- A fan at two ports, the second of which comes first, and a port that no board has. -/
def shuffledFan : Document :=
  { Document.empty with
    boards := Table.empty.insert .mainboard "btt-octopus-v1.1"
    records :=
      [⟨.fan .hotend, .secondary, .mainboard, "FAN1"⟩, ⟨.fan .partCooling, .primary, .mainboard, "FAN99"⟩,
        ⟨.fan .hotend, .primary, .mainboard, "fan0"⟩] }

/-- A fan whose second port is recorded first. -/
theorem shuffledFan_reversed :
    (restore Catalog.builtin { shuffledFan with records := shuffledFan.records.reverse }).1 =
        (restore Catalog.builtin shuffledFan).1 ∧
      (restore Catalog.builtin { shuffledFan with records := shuffledFan.records.reverse }).2.Perm
        (restore Catalog.builtin shuffledFan).2 :=
  restore_perm Catalog.builtin (List.reverse_perm _) (by decide) (by decide)

end Session

end PrinterWiring
