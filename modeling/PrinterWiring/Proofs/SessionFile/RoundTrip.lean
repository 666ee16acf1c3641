import Mathlib.Data.List.Sort
import PrinterWiring.Proofs.SessionFile.Kept
import PrinterWiring.SessionFile.Writer

/-!
# Writing a document and reading it back

A written document is a list of targets with values (`written`), each on a line of its own. If the document is in order
and every value is kept by its line, it is read back as it was (`read_write_of_kept`); if it can be read at all and no
value holds a line feed, each target has afterwards what is read of its value (`shown_of_putAll`).
-/

namespace PrinterWiring.SessionFile

/-! ## Documents in order -/

/-- The records stand in the order of their slots, one for each. -/
def Increasing (rs : List PortRecord) : Prop :=
  rs.Pairwise fun a b => Enumerated.position a.key < Enumerated.position b.key

/-- A document as drafts make it: records in the order of their slots, and no standard pin options. -/
structure Ordered (d : Document) : Prop where
  records : Increasing d.records
  options : ∀ f o, d.options.get? f = some o → o.isStandard = false

/-- Records in order are known by what they are. -/
theorem Increasing.ext {rs qs : List PortRecord} (first : Increasing rs) (second : Increasing qs)
    (same : ∀ r, r ∈ rs ↔ r ∈ qs) : rs = qs := by
  have irreflexive : Std.Irrefl fun a b : PortRecord => Enumerated.position a.key < Enumerated.position b.key :=
    ⟨fun a => lt_irrefl (Enumerated.position a.key)⟩
  have antisymmetric : Std.Antisymm fun a b : PortRecord => Enumerated.position a.key < Enumerated.position b.key :=
    ⟨fun a b less more => absurd less (lt_asymm more)⟩
  exact List.Pairwise.eq_of_mem_iff first second same

theorem Increasing.find? {rs : List PortRecord} (increasing : Increasing rs) {r : PortRecord} (inside : r ∈ rs) :
    rs.find? (·.key = r.key) = some r := by
  have distinct : (rs.map PortRecord.key).Nodup := by
    rw [List.Nodup, List.pairwise_map]
    refine increasing.imp fun {a b} less same => ?_
    rw [same] at less
    exact lt_irrefl _ less
  cases found : rs.find? (·.key = r.key) with
  | none => simpa using List.find?_eq_none.mp found r inside
  | some q =>
    have same : q.key = r.key := by simpa using List.find?_some found
    rw [List.inj_on_of_nodup_map distinct (List.mem_of_find?_eq_some found) inside same]

theorem toDocument_increasing (d : Draft) : Increasing d.toDocument.records := by
  rw [Draft.toDocument, Increasing, List.pairwise_map, Table.toList]
  refine List.Pairwise.filterMap _ (fun k j less p first q second => ?_) Enumerated.pairwise_all
  obtain ⟨_, _, rfl⟩ := Option.map_eq_some_iff.mp first
  obtain ⟨_, _, rfl⟩ := Option.map_eq_some_iff.mp second
  exact less

theorem mem_toDocument_records {d : Draft} {r : PortRecord} :
    r ∈ d.toDocument.records ↔ d.ports.get? r.key = some ⟨r.role, r.port⟩ := by
  simp only [Draft.toDocument, List.mem_map, Prod.exists, Table.mem_toList]
  constructor
  · rintro ⟨k, a, held, rfl⟩
    exact held
  · exact fun held => ⟨r.key, _, held, rfl⟩

theorem toDocument_ordered (d : Draft) : Ordered d.toDocument where
  records := toDocument_increasing d
  options f o held := by
    simp only [Draft.toDocument, Table.get?_filter, Option.filter_eq_some_iff] at held
    simpa using held.2

/-- The draft with the facts of a document. -/
def Draft.ofDocument (d : Document) : Draft where
  boards := d.boards
  ports := .build fun k => (d.records.find? (·.key = k)).map fun r => ⟨r.role, r.port⟩
  options := d.options
  locations := d.locations
  settings := d.settings

/-- The ports of a draft are the records of its document. -/
theorem get?_ports_ofDocument {d : Document} (increasing : Increasing d.records) {k : SlotKey} {a : Address} :
    (Draft.ofDocument d).ports.get? k = some a ↔ ⟨k.function, k.slot, a.role, a.port⟩ ∈ d.records := by
  simp only [Draft.ofDocument, Table.get?_build, Option.map_eq_some_iff]
  constructor
  · rintro ⟨r, found, rfl⟩
    have same : r.key = k := by simpa using List.find?_some found
    subst same
    exact List.mem_of_find?_eq_some found
  · exact fun inside => ⟨_, increasing.find? inside, rfl⟩

/-- An ordered document is its draft's. -/
theorem toDocument_ofDocument {d : Document} (ordered : Ordered d) : (Draft.ofDocument d).toDocument = d := by
  have records : (Draft.ofDocument d).toDocument.records = d.records :=
    (toDocument_increasing _).ext ordered.records fun r => by
      rw [mem_toDocument_records, get?_ports_ofDocument ordered.records]
      rfl
  have options : (d.options.filter fun _ o => !o.isStandard) = d.options := by
    refine Table.ext fun f => ?_
    rw [Table.get?_filter]
    cases held : d.options.get? f with
    | none => rfl
    | some o => simp [Option.filter, ordered.options f o held]
  obtain ⟨boards, rs, os, locations, settings⟩ := d
  simp only [Draft.toDocument, Draft.ofDocument] at records options ⊢
  rw [records, options]

/-! ## What is written -/

/-- The values that are written of pin options. -/
def writtenOptions (p : PrinterFunction × PinOptions) : List (Target × String) :=
  (if p.2.invert then [(Target.invert p.1, truthText true)] else [])
    ++ (if p.2.suppressPullup then [(Target.pullup p.1, truthText false)] else [])

/-- The values that are written of a document. -/
def written (d : Document) : List (Target × String) :=
  d.boards.toList.map (fun p => (Target.board p.1, p.2))
    ++ (recordsInOrder d).map (fun r => (Target.port r.key, Address.toText ⟨r.role, r.port⟩))
    ++ d.locations.toList.map (fun p => (Target.location p.1, p.2.name))
    ++ d.options.toList.flatMap writtenOptions
    ++ d.settings.entries.map (fun p => (Target.setting p.1, p.2))

/-- The text that a draft states for a target. Only pin options that are set are stated. -/
def Draft.stated (d : Draft) : Target → Option String
  | .invert f => if (d.optionsOf f).invert then some (truthText true) else none
  | .pullup f => if (d.optionsOf f).suppressPullup then some (truthText false) else none
  | t => d.shown t

private theorem mem_entries {s : Settings} {k : SettingKey} {v : String} : (k, v) ∈ s.entries ↔ s.get? k = some v := by
  simp only [Settings.entries, List.mem_filterMap, Enumerated.mem_all, true_and, Option.map_eq_some_iff, Prod.mk.injEq]
  constructor
  · rintro ⟨_, _, held, rfl, rfl⟩
    exact held
  · exact fun held => ⟨k, v, held, rfl, rfl⟩

private theorem optionsOf_iff (flag : PinOptions → Bool) (off : flag .standard = false) (d : Document)
    (f : PrinterFunction) :
    (∃ o, d.options.get? f = some o ∧ flag o = true) ↔ flag ((Draft.ofDocument d).optionsOf f) = true := by
  rw [Draft.optionsOf, Draft.ofDocument]
  cases d.options.get? f <;> simp [off]

theorem mem_written_board {d : Document} {role : Role} {v : String} :
    (.board role, v) ∈ written d ↔ d.boards.get? role = some v := by
  simp [written, writtenOptions, Table.mem_toList]

theorem mem_written_port {d : Document} {k : SlotKey} {v : String} :
    (.port k, v) ∈ written d ↔ ∃ r ∈ d.records, r.key = k ∧ (⟨r.role, r.port⟩ : Address).toText = v := by
  simp [written, writtenOptions, recordsInOrder, Enumerated.mem_all]

/-- A line is written for each thing that the document states. -/
theorem mem_written_iff {d : Document} (increasing : Increasing d.records) {t : Target} {v : String} :
    (t, v) ∈ written d ↔ (Draft.ofDocument d).stated t = some v := by
  cases t with
  | board role => exact mem_written_board
  | setting k => simp [written, writtenOptions, Draft.stated, Draft.shown, Draft.ofDocument, mem_entries]
  | location f => simp [written, writtenOptions, Draft.stated, Draft.shown, Draft.ofDocument, Table.mem_toList]
  | port k =>
    rw [mem_written_port, Draft.stated, Draft.shown, Option.map_eq_some_iff]
    · simp only [get?_ports_ofDocument increasing]
      constructor
      · rintro ⟨r, inside, rfl, rfl⟩
        exact ⟨⟨r.role, r.port⟩, inside, rfl⟩
      · rintro ⟨a, inside, rfl⟩
        exact ⟨_, inside, rfl, rfl⟩
    · simp
    · simp
  | invert f =>
    have options : (.invert f, v) ∈ written d ↔
        (∃ o, d.options.get? f = some o ∧ o.invert = true) ∧ v = truthText true := by
      simp [written, writtenOptions, Table.mem_toList, ← and_assoc]
    rw [options, optionsOf_iff PinOptions.invert rfl, Draft.stated]
    cases ((Draft.ofDocument d).optionsOf f).invert <;> simp [eq_comm]
  | pullup f =>
    have options : (.pullup f, v) ∈ written d ↔
        (∃ o, d.options.get? f = some o ∧ o.suppressPullup = true) ∧ v = truthText false := by
      simp [written, writtenOptions, Table.mem_toList, ← and_assoc]
    rw [options, optionsOf_iff PinOptions.suppressPullup rfl, Draft.stated]
    cases ((Draft.ofDocument d).optionsOf f).suppressPullup <;> simp [eq_comm]

/-! ## Its lines -/

/-- The lines that give targets their values. -/
def linesOf (es : List (Target × String)) : List String := es.map fun e => line e.1 e.2

private theorem boardLines_eq (d : Document) :
    boardLines d = linesOf (d.boards.toList.map fun p => (Target.board p.1, p.2)) := by
  simp only [boardLines, linesOf, List.map_map]
  rfl

private theorem portLines_eq (d : Document) :
    portLines d = linesOf ((recordsInOrder d).map fun r => (Target.port r.key, Address.toText ⟨r.role, r.port⟩)) := by
  simp only [portLines, linesOf, List.map_map]
  refine List.map_congr_left fun r _ => ?_
  simp [line, Target.name, PortRecord.key, Address.toText, String.append_assoc, toString]

private theorem locationLines_eq (d : Document) :
    locationLines d = linesOf (d.locations.toList.map fun p => (Target.location p.1, p.2.name)) := by
  simp only [locationLines, linesOf, List.map_map]
  refine List.map_congr_left fun p _ => ?_
  show p.1.key ++ (".location" ++ "=") ++ p.2.name = p.1.key ++ ".location" ++ "=" ++ p.2.name
  simp only [String.append_assoc]

private theorem optionLines_eq (d : Document) :
    optionLines d = linesOf (d.options.toList.flatMap writtenOptions) := by
  simp only [optionLines, linesOf, List.map_flatMap]
  congr 1
  funext p
  have invert : toString p.1.key ++ toString ".invert=true" = line (.invert p.1) (truthText true) := by
    show p.1.key ++ (".invert" ++ ("=" ++ "true")) = p.1.key ++ ".invert" ++ "=" ++ "true"
    simp only [String.append_assoc]
  have pullup : toString p.1.key ++ toString ".pullup=false" = line (.pullup p.1) (truthText false) := by
    show p.1.key ++ (".pullup" ++ ("=" ++ "false")) = p.1.key ++ ".pullup" ++ "=" ++ "false"
    simp only [String.append_assoc]
  simp only [writtenOptions, List.map_append, invert, pullup]
  cases p.2.invert <;> cases p.2.suppressPullup <;> rfl

private theorem settingLines_eq (d : Document) :
    settingLines d = linesOf (d.settings.entries.map fun p => (Target.setting p.1, p.2)) := by
  simp only [settingLines, linesOf, List.map_map]
  rfl

/-- A line on which nothing is read. -/
def Silent (l : String) : Prop := keyValue l = .ok none ∧ Text.OneLine l

private theorem silent_blank : Silent "" := by
  have none : Text.trim "" = "" := by decide +kernel
  exact ⟨by simp [keyValue, none], by decide⟩

private theorem silent_comment {s : String} (whole : Text.OneLine s) : Silent ("# " ++ s) := by
  have front := Text.trimChars_append (p := ['#']) (by simp) (' ' :: s.toList) (by simp; decide) (by simp; decide)
  have start : (Text.trim ("# " ++ s)).toList.head? = some '#' := by
    rw [Text.toList_trim, String.toList_append, show "# ".toList = ['#', ' '] from rfl]
    exact congrArg List.head? front
  refine ⟨by simp [keyValue, start], ?_⟩
  rw [Text.oneLine_append]
  exact ⟨by decide, whole⟩

/-- A silent line addresses nothing. -/
theorem Silent.addressed? {l : String} (silent : Silent l) : addressed? l = none := by
  simp only [SessionFile.addressed?, silent.1]

/-- The line is silent or gives a target its value. -/
def LineOf (es : List (Target × String)) (l : String) : Prop := Silent l ∨ ∃ e ∈ es, l = line e.1 e.2

private theorem addressed?_linesOf (es : List (Target × String)) :
    (linesOf es).filterMap addressed? = es.map fun e => (e.1, stripped e.2) := by
  rw [linesOf, List.filterMap_map, ← List.filterMap_eq_map]
  refine List.filterMap_congr fun e _ => ?_
  simp only [Function.comp_apply, addressed?_line]

private theorem lineOf_of_mem_linesOf {es : List (Target × String)} {l : String} (inside : l ∈ linesOf es) :
    LineOf es l := by
  obtain ⟨e, listed, rfl⟩ := List.mem_map.mp inside
  exact .inr ⟨e, listed, rfl⟩

private theorem addressed?_group {title : String} (whole : Text.OneLine title) (es : List (Target × String)) :
    (group title (linesOf es)).filterMap addressed? = es.map fun e => (e.1, stripped e.2) := by
  unfold group
  split_ifs with none
  · cases es with
    | nil => rfl
    | cons => simp [linesOf] at none
  · simp [silent_blank.addressed?, (silent_comment whole).addressed?, addressed?_linesOf]

private theorem lineOf_of_mem_group {title : String} (whole : Text.OneLine title) {es : List (Target × String)}
    {l : String} (inside : l ∈ group title (linesOf es)) : LineOf es l := by
  unfold group at inside
  split_ifs at inside
  · cases inside
  · simp only [List.mem_append, List.mem_cons, List.not_mem_nil, or_false] at inside
    rcases inside with (rfl | rfl) | listed
    · exact .inl silent_blank
    · exact .inl (silent_comment whole)
    · exact lineOf_of_mem_linesOf listed

private theorem documentLines_eq (d : Document) : documentLines d =
    ["# klipconf session", "", "# Boards"] ++ linesOf (d.boards.toList.map fun p => (Target.board p.1, p.2))
      ++ group "Ports"
        (linesOf ((recordsInOrder d).map fun r => (Target.port r.key, Address.toText ⟨r.role, r.port⟩)))
      ++ group "Function options" (linesOf (d.locations.toList.map (fun p => (Target.location p.1, p.2.name))
        ++ d.options.toList.flatMap writtenOptions))
      ++ group "Settings" (linesOf (d.settings.entries.map fun p => (Target.setting p.1, p.2))) := by
  rw [documentLines, boardLines_eq, portLines_eq, locationLines_eq, optionLines_eq, settingLines_eq, linesOf, linesOf,
    linesOf, linesOf, linesOf, linesOf, List.map_append]

private theorem silent_title : Silent "# klipconf session" := silent_comment (s := "klipconf session") (by decide)

private theorem silent_boards : Silent "# Boards" := silent_comment (s := "Boards") (by decide)

private theorem oneLine_titles :
    Text.OneLine "Ports" ∧ Text.OneLine "Function options" ∧ Text.OneLine "Settings" := by
  decide

/-- The lines of a document give its targets their values, one after the other. -/
theorem addressed?_documentLines (d : Document) :
    (documentLines d).filterMap addressed? = (written d).map fun e => (e.1, stripped e.2) := by
  obtain ⟨ports, options, settings⟩ := oneLine_titles
  rw [documentLines_eq]
  simp only [List.filterMap_append, addressed?_linesOf, addressed?_group ports, addressed?_group options,
    addressed?_group settings, List.filterMap_cons, List.filterMap_nil, silent_title.addressed?, silent_blank.addressed?,
    silent_boards.addressed?, written, List.map_append, List.nil_append, List.append_assoc]

private theorem LineOf.mono {es es' : List (Target × String)} (kept : ∀ e ∈ es, e ∈ es') {l : String} (inside : LineOf es l) :
    LineOf es' l := by
  rcases inside with silent | ⟨e, listed, same⟩
  · exact .inl silent
  · exact .inr ⟨e, kept e listed, same⟩

private theorem lineOf_of_mem_documentLines {d : Document} {l : String} (inside : l ∈ documentLines d) :
    LineOf (written d) l := by
  obtain ⟨ports, options, settings⟩ := oneLine_titles
  rw [documentLines_eq] at inside
  simp only [List.mem_append, List.mem_cons, List.not_mem_nil, or_false] at inside
  rcases inside with ((((rfl | rfl | rfl) | inside) | inside) | inside) | inside
  · exact .inl silent_title
  · exact .inl silent_blank
  · exact .inl silent_boards
  · refine (lineOf_of_mem_linesOf inside).mono fun e listed => ?_
    simp only [written, List.mem_append, listed, true_or]
  · refine (lineOf_of_mem_group ports inside).mono fun e listed => ?_
    simp only [written, List.mem_append, listed, true_or, or_true]
  · refine (lineOf_of_mem_group options inside).mono fun e listed => ?_
    rcases List.mem_append.mp listed with location | option
    · simp only [written, List.mem_append, location, true_or, or_true]
    · simp only [written, List.mem_append, option, true_or, or_true]
  · refine (lineOf_of_mem_group settings inside).mono fun e listed => ?_
    simp only [written, List.mem_append, listed, or_true]

theorem LineOf.keyValue {es : List (Target × String)} {l : String} (inside : LineOf es l) :
    ∃ parts, keyValue l = .ok parts := by
  rcases inside with silent | ⟨e, _, rfl⟩
  · exact ⟨none, silent.1⟩
  · exact ⟨_, keyValue_line e.1 e.2⟩

private theorem oneLine_name (t : Target) : Text.OneLine t.name := oneLine_of_all_isKeyChar t.all_isKeyChar

/-- What is stated on one line is written on one. -/
theorem LineOf.oneLine {es : List (Target × String)} (whole : ∀ e ∈ es, Text.OneLine e.2) {l : String}
    (inside : LineOf es l) : Text.OneLine l := by
  rcases inside with silent | ⟨e, listed, rfl⟩
  · exact silent.2
  · have equals : Text.OneLine "=" := by decide
    rw [line, Text.oneLine_append, Text.oneLine_append]
    exact ⟨⟨oneLine_name e.1, equals⟩, whole e listed⟩

/-! ## Reading it back -/

/-- Without line feeds in its values, a written document is read value by value. -/
theorem read_write_iff {d d' : Document} (whole : ∀ e ∈ written d, Text.OneLine e.2) :
    read (write d) = .ok d' ↔
      ∃ e, putAll .empty ((written d).map fun e => (e.1, stripped e.2)) = .ok e ∧ e.toDocument = d' := by
  have lines : Text.lines (write d) = documentLines d ++ [""] :=
    Text.lines_unlines fun l inside => (lineOf_of_mem_documentLines inside).oneLine whole
  have good : ∀ l ∈ documentLines d ++ [""], ∃ parts, keyValue l = .ok parts := by
    intro l inside
    rcases List.mem_append.mp inside with front | back
    · exact (lineOf_of_mem_documentLines front).keyValue
    · rw [List.mem_singleton.mp back]
      exact ⟨none, silent_blank.1⟩
  have values : (documentLines d ++ [""]).filterMap addressed? = (written d).map fun e => (e.1, stripped e.2) := by
    rw [List.filterMap_append, addressed?_documentLines, List.filterMap_cons, silent_blank.addressed?,
      List.filterMap_nil, List.append_nil]
  rw [read_ok_iff, lines, values, and_iff_right good]

theorem lastFor_map (t : Target) (es : List (Target × String)) (f : String → String) :
    lastFor t (es.map fun e => (e.1, f e.2)) = (lastFor t es).map f := by
  induction es with
  | nil => rfl
  | cons e es ih =>
    rw [List.map_cons, lastFor, lastFor, ih]
    cases lastFor t es with
    | some v => rfl
    | none => by_cases here : e.1 = t <;> simp [here]

private theorem not_mem_of_lastFor_none {t : Target} {es : List (Target × String)} (missing : lastFor t es = none)
    (v : String) : (t, v) ∉ es := by
  induction es with
  | nil => simp
  | cons e es ih =>
    obtain ⟨later, here⟩ := Option.or_eq_none_iff.mp missing
    intro inside
    rcases List.mem_cons.mp inside with rfl | inside
    · simp at here
    · exact ih later inside

/-- The only value for a target is the last one. -/
theorem lastFor_of_only {t : Target} {v : String} {es : List (Target × String)} (inside : (t, v) ∈ es)
    (only : ∀ w, (t, w) ∈ es → w = v) : lastFor t es = some v := by
  cases last : lastFor t es with
  | some w => rw [only w (mem_of_lastFor last)]
  | none => exact absurd inside (not_mem_of_lastFor_none last v)

/-- What a document states for a target is the only value written for it. -/
theorem lastFor_written {d : Document} (increasing : Increasing d.records) (t : Target) :
    lastFor t (written d) = (Draft.ofDocument d).stated t := by
  cases stated : (Draft.ofDocument d).stated t with
  | some v =>
    refine lastFor_of_only ((mem_written_iff increasing).mpr stated) fun w inside => ?_
    exact Option.some.inj (((mem_written_iff increasing).mp inside).symm.trans stated)
  | none =>
    rw [Option.eq_none_iff_forall_ne_some]
    intro v last
    exact absurd (((mem_written_iff increasing).mp (mem_of_lastFor last)).symm.trans stated) nofun

private theorem optionsOf_empty (f : PrinterFunction) : Draft.empty.optionsOf f = .standard := by
  simp [Draft.optionsOf, Draft.empty]

/-- What a draft does not state is as in the empty draft. -/
theorem shown_of_stated_none {d : Draft} {t : Target} (unstated : d.stated t = none) : d.shown t = Draft.empty.shown t := by
  cases t with
  | setting k =>
    cases k with
    | maxVelocity | maxAccel | runCurrent | microsteps | zStop => cases unstated
    | _ => exact unstated
  | invert f =>
    simp only [Draft.stated] at unstated
    split_ifs at unstated with set
    rw [Bool.not_eq_true] at set
    simp only [Draft.shown, set, optionsOf_empty]
    rfl
  | pullup f =>
    simp only [Draft.stated] at unstated
    split_ifs at unstated with set
    rw [Bool.not_eq_true] at set
    simp only [Draft.shown, set, optionsOf_empty]
    rfl
  | _ => exact unstated.trans (by simp [Draft.shown, Draft.empty])

theorem shown_of_stated {d : Draft} {t : Target} {v : String} (stated : d.stated t = some v) : d.shown t = some v := by
  cases t with
  | invert f =>
    simp only [Draft.stated] at stated
    split_ifs at stated with set
    rw [Draft.shown, set, stated]
  | pullup f =>
    simp only [Draft.stated] at stated
    split_ifs at stated with set
    rw [Draft.shown, set, ← stated]
    rfl
  | _ => exact stated

/-- What is put together from the lines shows for each target what its line is read as. -/
theorem shown_of_putAll {d : Document} {e : Draft} (increasing : Increasing d.records)
    (put : putAll .empty ((written d).map fun e => (e.1, stripped e.2)) = .ok e) (t : Target) :
    (∀ v, (Draft.ofDocument d).stated t = some v → reading t (stripped v) = .ok (e.shown t)) ∧
      ((Draft.ofDocument d).stated t = none → e.shown t = (Draft.ofDocument d).shown t) := by
  obtain ⟨decided, kept⟩ := putAll_shown put t
  rw [lastFor_map, lastFor_written increasing] at decided kept
  refine ⟨fun v stated => decided _ (by rw [stated, Option.map_some]), fun unstated => ?_⟩
  rw [kept (by rw [unstated, Option.map_none]), shown_of_stated_none unstated]

/-- Values that are kept by their lines can all be taken in. -/
theorem exists_putAll_of_kept {d : Document} (each : ∀ e ∈ written d, Kept e.1 e.2) :
    ∃ e, putAll .empty ((written d).map fun e => (e.1, stripped e.2)) = .ok e := by
  refine putAll_total_iff.mpr ?_
  simp only [List.forall_mem_map]
  exact fun e inside => ⟨some e.2, (each e inside).2⟩

/-- A document in order, of which every value is kept by its line, is read back as it was. -/
theorem read_write_of_kept {d : Document} (ordered : Ordered d)
    (kept : ∀ t v, (Draft.ofDocument d).stated t = some v → Kept t v) : read (write d) = .ok d := by
  have each : ∀ e ∈ written d, Kept e.1 e.2 := fun e inside =>
    kept e.1 e.2 ((mem_written_iff ordered.records).mp inside)
  obtain ⟨e, put⟩ := exists_putAll_of_kept each
  have same : ∀ t, e.shown t = (Draft.ofDocument d).shown t := by
    intro t
    obtain ⟨decided, unstated⟩ := shown_of_putAll ordered.records put t
    cases stated : (Draft.ofDocument d).stated t with
    | none => exact unstated stated
    | some v =>
      have read := decided v stated
      rw [(kept t v stated).2, Except.ok.injEq] at read
      rw [← read, shown_of_stated stated]
  refine (read_write_iff fun e inside => (each e inside).1).mpr ⟨e, put, ?_⟩
  rw [toDocument_congr same, toDocument_ofDocument ordered]

end PrinterWiring.SessionFile
