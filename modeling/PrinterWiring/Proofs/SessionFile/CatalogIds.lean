import PrinterWiring.Proofs.Catalog.Merging
import PrinterWiring.Proofs.SessionFile.Canonical

/-!
# Ids of catalogs in session files

A catalog takes every board id and port id that is not blank; a session file trims them, takes quotes off board ids, and
ends them at the line. So of the ids that catalogs accept, exactly those come back from a session file that are trimmed,
have no line end and, for boards, are not in quotes (`accepted_persists_iff`).
-/

namespace PrinterWiring.SessionFile

variable {d : Document} {role : Role} {k : SlotKey} {board port : String}

/-- A document that selects a board for a role and wires a port of that role to a slot, with nothing else for the slot,
and whose other values are kept by their lines. -/
structure Carries (d : Document) (role : Role) (board : String) (k : SlotKey) (port : String) : Prop where
  selected : d.boards.get? role = some board
  wired : ⟨k.function, k.slot, role, port⟩ ∈ d.records
  alone : ∀ r ∈ d.records, r.key = k → r = ⟨k.function, k.slot, role, port⟩
  rest : ∀ t v, (t, v) ∈ written d → t ≠ .board role → t ≠ .port k → Kept t v

/-- The document is written and read with the board still selected and the port still wired. -/
def Persists (d : Document) (role : Role) (board : String) (k : SlotKey) (port : String) : Prop :=
  ∃ d', read (write d) = .ok d' ∧ d'.boards.get? role = some board ∧ ⟨k.function, k.slot, role, port⟩ ∈ d'.records

namespace Carries

variable (carries : Carries d role board k port)
include carries

private theorem lastFor_board : lastFor (.board role) (written d) = some board := by
  refine lastFor_of_only (mem_written_board.mpr carries.selected) fun v inside => ?_
  exact Option.some.inj ((mem_written_board.mp inside).symm.trans carries.selected)

private theorem lastFor_port : lastFor (.port k) (written d) = some (⟨role, port⟩ : Address).toText := by
  refine lastFor_of_only (mem_written_port.mpr ⟨_, carries.wired, rfl, rfl⟩) fun v inside => ?_
  obtain ⟨r, listed, here, rfl⟩ := mem_written_port.mp inside
  rw [carries.alone r listed here]

/-- All that is written has a property, if the two ids have it and everything has it that is kept by its line. -/
theorem forall_written {P : Target → String → Prop} (selected : P (.board role) board)
    (wired : P (.port k) (⟨role, port⟩ : Address).toText) (rest : ∀ t v, Kept t v → P t v) :
    ∀ e ∈ written d, P e.1 e.2 := by
  rintro ⟨t, v⟩ inside
  by_cases first : t = .board role
  · subst first
    rw [← Option.some.inj ((mem_written_board.mp inside).symm.trans carries.selected)] at selected
    exact selected
  · by_cases second : t = .port k
    · subst second
      obtain ⟨r, listed, here, rfl⟩ := mem_written_port.mp inside
      rw [carries.alone r listed here]
      exact wired
    · exact rest t v (carries.rest t v inside first second)

/-- What is read of the two ids. -/
theorem reading_last {e : Draft} (put : putAll .empty ((written d).map fun e => (e.1, stripped e.2)) = .ok e) :
    reading (.board role) (stripped board) = .ok (e.shown (.board role)) ∧
      reading (.port k) (stripped (⟨role, port⟩ : Address).toText) = .ok (e.shown (.port k)) := by
  constructor
  · exact (putAll_shown put _).1 _ (by rw [lastFor_map, carries.lastFor_board, Option.map_some])
  · exact (putAll_shown put _).1 _ (by rw [lastFor_map, carries.lastFor_port, Option.map_some])

/-- The two ids come back exactly if each is kept by its line. -/
theorem persists_iff :
    Persists d role board k port ↔ (Plain board ∧ ¬ Quoted board) ∧ Plain port := by
  rw [← @kept_board_iff role board, ← @kept_port_iff k ⟨role, port⟩]
  constructor
  · rintro ⟨d', file, selected, wired⟩
    have shown {e : Draft} (same : e.toDocument = d') :
        e.shown (.board role) = some board ∧ e.shown (.port k) = some (⟨role, port⟩ : Address).toText := by
      subst same
      refine ⟨selected, ?_⟩
      exact congrArg (Option.map Address.toText) (mem_toDocument_records.mp wired)
    obtain ⟨_, e, put, same⟩ := read_ok_iff.mp file
    have boardLine := oneLine_of_read put (shown same).1
    have portLine := oneLine_of_read put (shown same).2
    have whole := carries.forall_written (P := fun _ v => Text.OneLine v) boardLine portLine fun _ _ kept => kept.1
    obtain ⟨e, put, same⟩ := (read_write_iff whole).mp file
    obtain ⟨selected, wired⟩ := carries.reading_last put
    rw [(shown same).1] at selected
    rw [(shown same).2] at wired
    exact ⟨⟨boardLine, selected⟩, portLine, wired⟩
  · rintro ⟨selected, wired⟩
    have each := carries.forall_written selected wired fun _ _ kept => kept
    obtain ⟨e, put⟩ := exists_putAll_of_kept each
    obtain ⟨board_read, port_read⟩ := carries.reading_last put
    rw [selected.2, Except.ok.injEq] at board_read
    rw [wired.2, Except.ok.injEq, eq_comm, Draft.shown, Option.map_eq_some_iff] at port_read
    obtain ⟨a, held, same⟩ := port_read
    obtain rfl := toText_injective same
    have file := (read_write_iff fun e inside => (each e inside).1).mpr ⟨e, put, rfl⟩
    exact ⟨e.toDocument, file, board_read.symm, mem_toDocument_records.mpr held⟩

end Carries

/-! ## Ids of accepted catalogs -/

private theorem plain_iff_of_nonBlank {s : String} (named : Text.NonBlank s) :
    Plain s ↔ Text.trim s = s ∧ Text.OneLine s := by
  have filled : s ≠ "" := by
    rintro rfl
    obtain ⟨c, inside, _⟩ := named
    simp at inside
  exact ⟨fun plain => ⟨plain.trimmed, plain.line⟩, fun ⟨trimmed, line⟩ => ⟨filled, trimmed, line⟩⟩

/-- From the text of an address, the address is read with its port trimmed. -/
theorem parse_toText {a : Address} (named : Text.NonBlank a.port) :
    Address.parse a.toText = .ok ⟨a.role, Text.trim a.port⟩ := by
  have clean : ':' ∉ a.role.name.toList := by cases a.role <;> decide
  have cut : Text.splitFirst? ':' a.toText = some (a.role.name, a.port) := Text.splitFirst?_append clean
  have filled : (Text.trim a.port).isEmpty = false := by simpa using Text.trim_ne_empty named
  simp only [Address.parse, cut, filled, Bool.false_eq_true, if_false, parse_role_name]
  rfl

/-- The ids of a board and a port of an accepted catalog come back from a session file exactly if they are trimmed and
on one line, and that of the board is not in quotes; and the address of the port is read as it was exactly if the id of
the port is trimmed. -/
theorem accepted_persists_iff {c : Catalog} (accepted : c.Accepted) {b : Board} (listed : b ∈ c.boards) {p : Port}
    (inside : p ∈ b.ports) (role : Role) (k : SlotKey) :
    (∀ d, Carries d role b.id k p.id → (Persists d role b.id k p.id ↔
      (Text.trim b.id = b.id ∧ Text.OneLine b.id ∧ ¬ Quoted b.id) ∧ Text.trim p.id = p.id ∧ Text.OneLine p.id)) ∧
    (Address.parse (Address.toText ⟨role, p.id⟩) = .ok ⟨role, p.id⟩ ↔ Text.trim p.id = p.id) := by
  have sound := accepted.board_sound listed
  have named := sound.portsNamed p inside
  constructor
  · intro d carries
    rw [carries.persists_iff, plain_iff_of_nonBlank sound.named, plain_iff_of_nonBlank named]
    simp only [and_assoc]
  · rw [parse_toText (a := ⟨role, p.id⟩) named]
    simp

/-! ## A board with a fan port -/

/-- The entry of a board that has a single port, for a fan. -/
def fanEntry (board port : String) : BoardEntry :=
  ⟨board, "Fan board", "", .mainboard, "", { PortEntries.none with fan := [⟨port, none, "PA1"⟩] }⟩

private theorem valid_fanEntry {board port : String} (named : Text.NonBlank board) (portNamed : Text.NonBlank port) :
    (fanEntry board port).Valid where
  named := named
  raw p inside raw held := by
    obtain rfl := List.mem_singleton.mp inside
    obtain rfl := List.mem_singleton.mp held
    exact isRawPin_iff.mp (by decide +kernel : isRawPin "PA1" = true)
  portsNamed p inside := by
    obtain rfl := List.mem_singleton.mp inside
    exact portNamed
  apart := List.pairwise_singleton _ _

/-- The catalog of that board. -/
def fanCatalog (board port : String) : Catalog := Catalog.empty.insert (fanEntry board port).board

private theorem accepted_fanCatalog {board port : String} (named : Text.NonBlank board)
    (portNamed : Text.NonBlank port) :
    (fanCatalog board port).Accepted := by
  have admits : Catalog.empty.Admits [fanEntry board port] :=
    Catalog.admits_cons.mpr ⟨valid_fanEntry named portNamed, rfl, nofun, nofun, nofun, List.nodup_nil⟩
  exact .merge .empty (Catalog.merge_eq_ok.mpr ⟨admits, rfl⟩)

/-- The slot of the fan. -/
def fanSlot : SlotKey := ⟨.fan .partCooling, .primary⟩

/-- The document that selects the board and wires its port to the part cooling fan. -/
def fanDocument (board port : String) : Document :=
  { Document.empty with
    boards := Table.empty.insert .mainboard board
    records := [⟨.fan .partCooling, .primary, .mainboard, port⟩] }

private theorem canonical_empty : Canonical .empty where
  increasing := List.Pairwise.nil
  ports := nofun
  options f o held := by simp [Document.empty] at held
  boards role id held := by simp [Document.empty] at held
  settings :=
    { sizes := by rintro n (unset | unset | unset) <;> cases unset
      velocity := by decide
      acceleration := by decide
      current := by decide
      steps := by decide
      texts := by rintro v (unset | unset | unset | unset) <;> cases unset }

private theorem carries_fanDocument (board port : String) :
    Carries (fanDocument board port) .mainboard board fanSlot port where
  selected := by rw [fanDocument, Table.get?_insert, if_pos rfl]
  wired := List.mem_singleton_self _
  alone r inside _ := List.mem_singleton.mp inside
  rest t v inside apart other := by
    have increasing : Increasing (fanDocument board port).records := List.pairwise_singleton _ _
    have stated := (mem_written_iff increasing).mp inside
    have same : (Draft.ofDocument (fanDocument board port)).stated t = (Draft.ofDocument .empty).stated t := by
      cases t with
      | board role =>
        have second : role ≠ .mainboard := fun same => apart (congrArg _ same)
        exact Table.get?_put_of_ne second
      | port k =>
        have second : fanSlot ≠ k := fun same => other (congrArg _ same.symm)
        simp [Draft.stated, Draft.shown, Draft.ofDocument, fanDocument, PortRecord.key, Document.empty]
        exact decide_eq_false second
      | setting | location | invert | pullup => rfl
    exact kept_stated canonical_empty (same.symm.trans stated)

/-- The ids "spare" and "FAN0" come back. -/
theorem fanCatalog_persists :
    (fanCatalog "spare" "FAN0").Accepted ∧ Carries (fanDocument "spare" "FAN0") .mainboard "spare" fanSlot "FAN0" ∧
      Persists (fanDocument "spare" "FAN0") .mainboard "spare" fanSlot "FAN0" := by
  have named : Text.NonBlank "spare" := Text.isAllBlank_eq_false.mp (by decide +kernel)
  have portNamed : Text.NonBlank "FAN0" := Text.isAllBlank_eq_false.mp (by decide +kernel)
  have accepted := accepted_fanCatalog named portNamed
  have carries := carries_fanDocument "spare" "FAN0"
  have persists := accepted_persists_iff accepted (b := (fanEntry "spare" "FAN0").board) (List.mem_singleton_self _)
    (p := ⟨"FAN0", none, .fan, .simple "PA1"⟩) (List.mem_singleton_self _) .mainboard fanSlot
  exact ⟨accepted, carries, (persists.1 _ carries).mpr (by decide +kernel)⟩

/-- The ids "spare " and "FAN0 " are accepted, but do not come back. -/
theorem paddedIds_not_persist :
    (fanCatalog "spare " "FAN0 ").Accepted ∧
      (∃ b ∈ (fanCatalog "spare " "FAN0 ").boards, b.id = "spare " ∧ ∃ p ∈ b.ports, p.id = "FAN0 ") ∧
      Carries (fanDocument "spare " "FAN0 ") .mainboard "spare " fanSlot "FAN0 " ∧
      ¬ Persists (fanDocument "spare " "FAN0 ") .mainboard "spare " fanSlot "FAN0 " ∧
      Address.parse (Address.toText ⟨.mainboard, "FAN0 "⟩) = .ok ⟨.mainboard, "FAN0"⟩ := by
  have named : Text.NonBlank "spare " := Text.isAllBlank_eq_false.mp (by decide +kernel)
  have portNamed : Text.NonBlank "FAN0 " := Text.isAllBlank_eq_false.mp (by decide +kernel)
  have carries := carries_fanDocument "spare " "FAN0 "
  refine ⟨accepted_fanCatalog named portNamed, ?_, carries, fun persists => ?_, ?_⟩
  · exact ⟨_, List.mem_singleton_self _, rfl, _, List.mem_singleton_self _, rfl⟩
  · have trimmed := (carries.persists_iff.mp persists).1.1.trimmed
    exact absurd trimmed (by decide +kernel)
  · decide +kernel

end PrinterWiring.SessionFile
