import PrinterWiring.Proofs.Json.Fields
import PrinterWiring.Proofs.Json.Text
import PrinterWiring.Proofs.Names
import PrinterWiring.Session.Document

/-!
# Documents sent as JSON

What is written of a document is decoded to the document (`Document.decoder_undoes`), part by part as the parts are
nested, and its text keeps it (`Document.toJson_plain`). A function is read by any of its names in any letter case, as a
value and as a key, so a document in which functions are named otherwise is the same document
(`Document.Respelled.decoder`). `Document.transported` puts this together for texts.
-/

namespace PrinterWiring

open Decode RecordDecoder

/-! ## What is written is decoded -/

private theorem Slot.decoder_undoes : Undoes decoder toJson := undoes_choice (Enumerated.named?_name name_injective)

private theorem Role.decoder_undoes : Undoes decoder toJson := undoes_choice (Enumerated.named?_name name_injective)

private theorem Kinematics.decoder_undoes :
    Undoes decoder toJson := undoes_choice (Enumerated.named?_name name_injective)

private theorem Driver.decoder_undoes : Undoes decoder toJson := undoes_choice (Enumerated.named?_name name_injective)

private theorem ProbeKind.decoder_undoes :
    Undoes decoder toJson := undoes_choice (Enumerated.named?_name name_injective)

private theorem ZStop.decoder_undoes : Undoes decoder toJson := undoes_choice (Enumerated.named?_name name_injective)

private theorem PrinterFunction.decoder_undoes : Undoes decoder toJson := undoes_parsed parse?_key

private theorem PinOptions.decoder_undoes : Undoes decoder toJson := by
  rintro ⟨invert, suppress⟩
  refine decode_obj ?_ rfl (by decide)
  refine .seq ?_ (.withDefault rfl (undoes_bool suppress))
  exact .map (.withDefault rfl (undoes_bool invert)) _

private theorem PortRecord.decoder_undoes : Undoes decoder toJson := by
  rintro ⟨f, slot, role, port⟩
  refine decode_obj ?_ rfl (by decide)
  refine .seq ?_ (.required rfl (undoes_text port))
  refine .seq ?_ (.required rfl (Role.decoder_undoes role))
  refine .seq ?_ (.withDefault rfl (Slot.decoder_undoes slot))
  exact .map (.required rfl (PrinterFunction.decoder_undoes f)) _

private theorem Settings.decoder_undoes : Undoes decoder toJson := by
  have free : Undoes (Decode.optional text) (.ofOption .text) := undoes_optional undoes_text nofun
  have number : Undoes (Decode.optional word32) (.ofOption wordJson) := undoes_optional undoes_word32 nofun
  have moves : Undoes (Decode.optional Kinematics.decoder) (.ofOption Kinematics.toJson) :=
    undoes_optional Kinematics.decoder_undoes nofun
  have drives : Undoes (Decode.optional Driver.decoder) (.ofOption Driver.toJson) :=
    undoes_optional Driver.decoder_undoes nofun
  have probes : Undoes (Decode.optional ProbeKind.decoder) (.ofOption ProbeKind.toJson) :=
    undoes_optional ProbeKind.decoder_undoes nofun
  rintro ⟨kinematics, width, depth, height, velocity, accel, driver, current, steps, hotend, bed, probe, stop, serial,
    uuid⟩
  refine decode_obj ?_ rfl (by decide)
  refine .seq ?_ (.withDefault rfl (free uuid))
  refine .seq ?_ (.withDefault rfl (free serial))
  refine .seq ?_ (.withDefault rfl (ZStop.decoder_undoes stop))
  refine .seq ?_ (.withDefault rfl (probes probe))
  refine .seq ?_ (.withDefault rfl (free bed))
  refine .seq ?_ (.withDefault rfl (free hotend))
  refine .seq ?_ (.withDefault rfl (undoes_word16 steps))
  refine .seq ?_ (.withDefault rfl (undoes_word32 current))
  refine .seq ?_ (.withDefault rfl (drives driver))
  refine .seq ?_ (.withDefault rfl (undoes_word32 accel))
  refine .seq ?_ (.withDefault rfl (undoes_word32 velocity))
  refine .seq ?_ (.withDefault rfl (number height))
  refine .seq ?_ (.withDefault rfl (number depth))
  refine .seq ?_ (.withDefault rfl (number width))
  exact .map (.withDefault rfl (moves kinematics)) _

private theorem Document.ofParts_self (d : Document) :
    ofParts (d.boards.get? .mainboard) (d.boards.get? .toolboard) d.records d.options d.locations d.settings = d := by
  have boards : (Table.empty.put .mainboard (d.boards.get? .mainboard)).put .toolboard (d.boards.get? .toolboard) =
      d.boards := by
    apply Table.ext
    intro role
    cases role <;> simp [Table.get?_put]
  rw [ofParts, boards]

/-- A document that is written is read back. -/
theorem Document.decoder_undoes : Undoes decoder toJson := by
  have name : Undoes (Decode.optional text) (.ofOption .text) := undoes_optional undoes_text nofun
  have options := undoes_table PrinterFunction.parse?_key PinOptions.decoder_undoes
  have locations := undoes_table PrinterFunction.parse?_key Role.decoder_undoes
  intro d
  calc decoder d.toJson = .ok (ofParts (d.boards.get? .mainboard) (d.boards.get? .toolboard) d.records d.options
        d.locations d.settings) := by
        refine decode_obj ?_ rfl (by decide)
        refine .seq ?_ (.withDefault rfl (Settings.decoder_undoes d.settings))
        refine .seq ?_ (.withDefault rfl (locations d.locations))
        refine .seq ?_ (.withDefault rfl (options d.options))
        refine .seq ?_ (.withDefault rfl (undoes_list PortRecord.decoder_undoes d.records))
        refine .seq ?_ (.withDefault rfl (name (d.boards.get? .toolboard)))
        exact .map (.withDefault rfl (name (d.boards.get? .mainboard))) _
    _ = .ok d := by rw [ofParts_self]

/-! ## What is written -/

namespace Json.Plain

variable {α : Type} {write : α → Json}

theorem ofOption (each : ∀ a, (write a).Plain) (o : Option α) : (Json.ofOption write o).Plain := by
  cases o with
  | none => exact null
  | some a => exact each a

theorem word (n : UInt32) : (Settings.wordJson n).Plain := nat (Nat.lt_trans n.toNat_lt (by decide))

end Json.Plain

private theorem PinOptions.toJson_plain (o : PinOptions) : o.toJson.Plain := by
  refine .obj ?_
  simp [Json.Plain.bool]

private theorem PortRecord.toJson_plain (r : PortRecord) : r.toJson.Plain := by
  refine .obj ?_
  simp [Json.Plain.text, PrinterFunction.toJson, Slot.toJson, Role.toJson]

private theorem Settings.toJson_plain (s : Settings) : s.toJson.Plain := by
  have steps : (Json.nat s.microsteps.toNat).Plain := .nat (Nat.lt_trans s.microsteps.toNat_lt (by decide))
  refine .obj ?_
  simp only [List.forall_mem_cons]
  exact ⟨.ofOption (fun _ => .text _) _, .ofOption .word _, .ofOption .word _, .ofOption .word _, .word _, .word _,
    .ofOption (fun _ => .text _) _, .word _, steps, .ofOption .text _, .ofOption .text _, .ofOption (fun _ => .text _) _,
    .text _, .ofOption .text _, .ofOption .text _, nofun⟩

/-- A document is written with plain values only. -/
theorem Document.toJson_plain (d : Document) : d.toJson.Plain := by
  refine .obj ?_
  simp only [List.forall_mem_cons]
  refine ⟨.ofOption .text _, .ofOption .text _, .arr ?_, .obj ?_, .obj ?_, d.settings.toJson_plain, nofun⟩
  · exact List.forall_mem_map.2 fun r _ => r.toJson_plain
  · exact List.forall_mem_map.2 fun p _ => p.2.toJson_plain
  · exact List.forall_mem_map.2 fun _ _ => .text _

/-! ## Names spelled otherwise -/

/-- The same value, or a text that names the same function. -/
inductive NameRespelled : Json → Json → Prop where
  | same (v : Json) : NameRespelled v v
  | name {s t : String} (same : PrinterFunction.parse? s = PrinterFunction.parse? t) : NameRespelled (.text s) (.text t)

/-- The same value, or an object with keys that name the same functions. -/
inductive KeysRespelled : Json → Json → Prop where
  | same (v : Json) : KeysRespelled v v
  | keys {ms ns : List (Option String × Json)} {whole : Bool}
    (same : List.Forall₂ (fun m n => m.1.map PrinterFunction.parse? = n.1.map PrinterFunction.parse? ∧ m.2 = n.2)
      ms ns) : KeysRespelled (.record ms whole) (.record ns whole)

/-- Which values may be respelled in a record. -/
def PortRecord.Member (key : Option String) : Json → Json → Prop :=
  if key = some "function" then NameRespelled else Eq

/-- The same value, or an object whose member `function` names the same function. -/
inductive RecordRespelled : Json → Json → Prop where
  | same (v : Json) : RecordRespelled v v
  | members {ms ns : List (Option String × Json)} {whole : Bool} (same : Alike PortRecord.Member ms ns) :
    RecordRespelled (.record ms whole) (.record ns whole)

/-- The same value, or a list of such objects. -/
inductive RecordsRespelled : Json → Json → Prop where
  | same (v : Json) : RecordsRespelled v v
  | items {vs ws : List Json} {whole : Bool} (same : List.Forall₂ RecordRespelled vs ws) :
    RecordsRespelled (.list vs whole) (.list ws whole)

/-- Which values may be respelled in a document. -/
def Document.Member (key : Option String) : Json → Json → Prop :=
  if key = some "assignments" then RecordsRespelled
  else if key = some "pin_options" ∨ key = some "locations" then KeysRespelled
  else Eq

/-- Two documents with the same members in the same order, in which functions are named by other names or in other
letter cases. -/
inductive Document.Respelled : Json → Json → Prop where
  | same (v : Json) : Document.Respelled v v
  | members {ms ns : List (Option String × Json)} {whole : Bool} (same : Alike Document.Member ms ns) :
    Document.Respelled (.record ms whole) (.record ns whole)

variable {v w : Json}

theorem NameRespelled.decoder (respelled : NameRespelled v w) :
    PrinterFunction.decoder v = PrinterFunction.decoder w := by
  cases respelled with
  | same => rfl
  | name same => simp [PrinterFunction.decoder, parsed, text, same, bind, Except.bind]

theorem KeysRespelled.table {α : Type} {d : Decoder α} (respelled : KeysRespelled v w) :
    table PrinterFunction.parse? d v = table PrinterFunction.parse? d w := by
  cases respelled with
  | same => rfl
  | @keys ms ns whole same =>
    have filled (step : Table PrinterFunction α → Option String × Json → Except Fault (Table PrinterFunction α))
        (blind : ∀ t m n, m.1.map PrinterFunction.parse? = n.1.map PrinterFunction.parse? ∧ m.2 = n.2 →
          step t m = step t n) (t : Table PrinterFunction α) : ms.foldlM step t = ns.foldlM step t := by
      induction same generalizing t with
      | nil => rfl
      | cons first _ ih => simp only [List.foldlM_cons, blind t _ _ first, ih]
    simp only [Decode.table]
    rw [filled _ fun t m n same => by simp only [same.1, same.2]]

theorem RecordRespelled.decoder (respelled : RecordRespelled v w) : PortRecord.decoder v = PortRecord.decoder w := by
  cases respelled with
  | same => rfl
  | members same =>
    refine decode_congr ?_ ?_ same
    · refine .seq ?_ (.required fun v w same => congrArg _ same)
      refine .seq ?_ (.required fun v w same => congrArg _ same)
      refine .seq ?_ (.withDefault fun v w same => congrArg _ same)
      exact .map (.required fun v w same => NameRespelled.decoder same) _
    · intro key v w unknown same
      unfold PortRecord.Member at same
      split_ifs at same with function
      · cases function
        exact absurd unknown (by decide)
      · exact same

theorem RecordsRespelled.list (respelled : RecordsRespelled v w) :
    list PortRecord.decoder v = list PortRecord.decoder w := by
  cases respelled with
  | same => rfl
  | @items vs ws whole same =>
    have read : vs.mapM PortRecord.decoder = ws.mapM PortRecord.decoder := by
      induction same with
      | nil => rfl
      | cons first _ ih => rw [List.mapM_cons, List.mapM_cons, first.decoder, ih]
    simp only [Decode.list, read]

/-- A document is read alike however its functions are spelled. -/
theorem Document.Respelled.decoder (respelled : Respelled v w) : decoder v = decoder w := by
  cases respelled with
  | same => rfl
  | members same =>
    refine decode_congr ?_ ?_ same
    · refine .seq ?_ (.withDefault fun v w same => congrArg _ same)
      refine .seq ?_ (.withDefault fun v w same => KeysRespelled.table same)
      refine .seq ?_ (.withDefault fun v w same => KeysRespelled.table same)
      refine .seq ?_ (.withDefault fun v w same => RecordsRespelled.list same)
      refine .seq ?_ (.withDefault fun v w same => congrArg _ same)
      exact .map (.withDefault fun v w same => congrArg _ same) _
    · intro key v w unknown same
      unfold Document.Member at same
      split_ifs at same with records keys
      · cases records
        exact absurd unknown (by decide)
      · rcases keys with options | locations
        · cases options
          exact absurd unknown (by decide)
        · cases locations
          exact absurd unknown (by decide)
      · exact same

/-- A document survives its transport as JSON in either layout, and it does not matter by which of their names its
functions are sent. -/
theorem Document.transported :
    (∀ d : Document, decodeText decoder d.toJson.compact = .ok d ∧
      ∀ level, decodeText decoder (d.toJson.pretty level) = .ok d) ∧
    (∀ (d : Document) s, Respelled d.toJson (Json.readFront s).1 → (Json.readFront s).2 = true →
      decodeText decoder s = .ok d) ∧
    ∀ s t, Respelled (Json.readFront s).1 (Json.readFront t).1 → (Json.readFront s).2 = (Json.readFront t).2 →
      decodeText decoder s = decodeText decoder t := by
  refine ⟨?_, ?_, ?_⟩
  · intro d
    constructor
    · rw [decodeText_of_readFront decoder (Json.readFront_compact d.toJson_plain), decoder_undoes]
    · intro level
      rw [decodeText_of_readFront decoder (Json.readFront_pretty d.toJson_plain level), decoder_undoes]
  · intro d s respelled clean
    rw [decodeText_of_readFront decoder (Prod.ext rfl clean), ← respelled.decoder, decoder_undoes]
  · intro s t respelled clean
    simp only [decodeText, respelled.decoder, clean]

/-- A heater on a port and a fan with options, under the given names. -/
def heatedFan (heater fan : String) : Json := .obj
  [("assignments", .arr [.obj [("function", .text heater), ("role", .text "mainboard"), ("port", .text "BED")]]),
   ("pin_options", .obj [(fan, .obj [("invert", .bool true)])])]

private theorem heatedFan_plain (heater fan : String) : (heatedFan heater fan).Plain := by
  refine .obj ?_
  simp only [List.forall_mem_cons]
  refine ⟨.arr ?_, .obj ?_, nofun⟩
  · simp only [List.forall_mem_cons]
    refine ⟨.obj ?_, nofun⟩
    simp [Json.Plain.text]
  · simp only [List.forall_mem_cons]
    refine ⟨.obj ?_, nofun⟩
    simp [Json.Plain.bool]

private theorem heatedFan_respelled {heater heater' fan fan' : String}
    (heaters : PrinterFunction.parse? heater = PrinterFunction.parse? heater')
    (fans : PrinterFunction.parse? fan = PrinterFunction.parse? fan') :
    Document.Respelled (heatedFan heater fan) (heatedFan heater' fan') := by
  have record : RecordRespelled
      (.obj [("function", .text heater), ("role", .text "mainboard"), ("port", .text "BED")])
      (.obj [("function", .text heater'), ("role", .text "mainboard"), ("port", .text "BED")]) :=
    .members (.cons ⟨rfl, .name heaters⟩ (.cons ⟨rfl, rfl⟩ (.cons ⟨rfl, rfl⟩ .nil)))
  have options : KeysRespelled (.obj [(fan, .obj [("invert", .bool true)])])
      (.obj [(fan', .obj [("invert", .bool true)])]) :=
    .keys (.cons ⟨congrArg some fans, rfl⟩ .nil)
  exact .members (.cons ⟨rfl, .items (.cons record .nil)⟩ (.cons ⟨rfl, options⟩ .nil))

/-- A heater and a fan under other names. -/
theorem heatedFan_transported :
    Document.Respelled (Json.readFront (heatedFan "HEATER_bed" " Fan").compact).1
        (Json.readFront (heatedFan "bed_heater" "fan_part").compact).1 ∧
      (Json.readFront (heatedFan "HEATER_bed" " Fan").compact).2 =
        (Json.readFront (heatedFan "bed_heater" "fan_part").compact).2 ∧
      decodeText Document.decoder (heatedFan "HEATER_bed" " Fan").compact =
        decodeText Document.decoder (heatedFan "bed_heater" "fan_part").compact := by
  have read (heater fan : String) :
      Json.readFront (heatedFan heater fan).compact = (heatedFan heater fan, true) :=
    Json.readFront_compact (heatedFan_plain heater fan)
  have respelled : Document.Respelled (Json.readFront (heatedFan "HEATER_bed" " Fan").compact).1
      (Json.readFront (heatedFan "bed_heater" "fan_part").compact).1 := by
    rw [read, read]
    exact heatedFan_respelled (by decide +kernel) (by decide +kernel)
  have clean : (Json.readFront (heatedFan "HEATER_bed" " Fan").compact).2 =
      (Json.readFront (heatedFan "bed_heater" "fan_part").compact).2 := by rw [read, read]
  exact ⟨respelled, clean, Document.transported.2.2 _ _ respelled clean⟩

end PrinterWiring
