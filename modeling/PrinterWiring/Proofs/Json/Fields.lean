import Mathlib.Data.List.Forall2
import PrinterWiring.Proofs.Tables
import PrinterWiring.Json.Decode

/-!
# What decoders accept

A decoder undoes a writer if it reads every value that the writer writes (`Decode.Undoes`). For an object with named
fields this is put together field by field (`RecordDecoder.Accepts`, `decode_obj`). A decoder respects a relation if it
cannot tell related values apart, and for an object that too goes field by field (`RecordDecoder.Respects`,
`decode_congr`).
-/

namespace PrinterWiring

namespace Decode

variable {κ α : Type} [DecidableEq κ] [Enumerated κ] {d : Decoder α} {write : α → Json}

/-- Whatever is written is decoded again. -/
def Undoes (d : Decoder α) (write : α → Json) : Prop := ∀ a, d (write a) = .ok a

theorem undoes_text : Undoes text .text := fun _ => rfl

theorem undoes_bool : Undoes bool .bool := fun _ => rfl

private theorem natBelow_nat {bound n : Nat} (below : n < bound) : natBelow bound (.nat n) = .ok n := by
  have inside : 0 ≤ (n : Int) ∧ (n : Int) < bound := ⟨by omega, by omega⟩
  simp only [natBelow, Json.nat, if_pos inside, Int.toNat_natCast]

theorem undoes_word16 : Undoes word16 fun n => .nat n.toNat := by
  intro n
  rw [word16, natBelow_nat n.toNat_lt, Except.map, UInt16.ofNat_toNat]

theorem undoes_word32 : Undoes word32 fun n => .nat n.toNat := by
  intro n
  rw [word32, natBelow_nat n.toNat_lt, Except.map, UInt32.ofNat_toNat]

theorem undoes_parsed {parse? : String → Option α} {name : α → String} (named : ∀ a, parse? (name a) = some a) :
    Undoes (parsed parse?) fun a => .text (name a) := by
  intro a
  simp [parsed, text, named, bind, Except.bind]

theorem undoes_choice {named? : String → Option α} {name : α → String} (named : ∀ a, named? (name a) = some a) :
    Undoes (choice named?) fun a => .text (name a) := by
  intro a
  simp only [choice, named]

theorem undoes_optional (undoes : Undoes d write) (value : ∀ a, write a ≠ .null) :
    Undoes (optional d) (Json.ofOption write) := by
  rintro (_ | a)
  · rfl
  · rw [Json.ofOption, optional, undoes a]
    · rfl
    · exact value a

theorem undoes_list (undoes : Undoes d write) : Undoes (list d) fun as => .arr (as.map write) := by
  intro as
  have each : (as.map write).mapM d = .ok as := by
    induction as with
    | nil => rfl
    | cons a as ih => rw [List.map_cons, List.mapM_cons, undoes a, ih]; rfl
  simp only [list, each, bind, Except.bind, if_true]

theorem undoes_table {key? : String → Option κ} {name : κ → String} (named : ∀ k, key? (name k) = some k)
    (undoes : Undoes d write) :
    Undoes (table key? d) fun t => .obj (t.toList.map fun p => (name p.1, write p.2)) := by
  intro t
  have refilled : t.toList.foldl (fun u p => u.insert p.1 p.2) Table.empty = t := by
    apply Table.ext
    intro k
    rw [Table.get?_foldl_insert_toList, Table.get?_empty, Option.or_none]
  simp only [table, Json.obj, List.foldlM_map, Option.map_some, named, undoes _]
  show (t.toList.foldlM (fun u p => pure (u.insert p.1 p.2)) Table.empty >>= fun t => Except.ok t) = .ok t
  rw [List.foldlM_pure, refilled]
  rfl

end Decode

namespace RecordDecoder

variable {α β : Type} {r : RecordDecoder α} {members : List (String × Json)} {name : String} {d : Decoder α} {v : Json}
  {a : α}

/-- The fields pass on the members, and `a` is made from them. -/
structure Accepts (r : RecordDecoder α) (members : List (String × Json)) (a : α) : Prop where
  passes : ∀ f ∈ r.fields, ∀ v, members.lookup f.1 = some v → f.2 v = .ok ()
  builds : r.build members = .ok a

namespace Accepts

theorem map (accepts : r.Accepts members a) (f : α → β) : (f <$> r).Accepts members (f a) where
  passes := accepts.passes
  builds := by
    show (r.build members).map f = .ok (f a)
    rw [accepts.builds]
    rfl

theorem seq {r : RecordDecoder (α → β)} {s : RecordDecoder α} {f : α → β} (first : r.Accepts members f)
    (second : s.Accepts members a) : (r <*> s).Accepts members (f a) where
  passes := by
    intro field inside
    rcases List.mem_append.1 inside with inside | inside
    · exact first.passes field inside
    · exact second.passes field inside
  builds := by
    show (r.build members >>= fun g => s.build members >>= fun b => pure (g b)) = .ok (f a)
    rw [first.builds, second.builds]
    rfl

theorem field {missing : Except Fault α} (held : members.lookup name = some v) (read : d v = .ok a) :
    (field name d missing).Accepts members a where
  passes := by
    intro field inside w found
    obtain rfl := List.mem_singleton.1 inside
    rw [held] at found
    cases found
    simp only [read, Except.map]
  builds := by simp only [RecordDecoder.field, held, read]

theorem required (held : members.lookup name = some v) (read : d v = .ok a) : (required name d).Accepts members a :=
  field held read

theorem withDefault {otherwise : α} (held : members.lookup name = some v) (read : d v = .ok a) :
    (withDefault name d otherwise).Accepts members a := field held read

end Accepts

private theorem mem_of_lookup {κ α : Type} [BEq κ] [LawfulBEq κ] {entries : List (κ × α)} {k : κ} {a : α}
    (found : entries.lookup k = some a) : (k, a) ∈ entries := by
  obtain ⟨before, after, rfl, _⟩ := List.lookup_eq_some_iff.1 found
  simp

private theorem lookup_of_mem {κ α : Type} [BEq κ] [LawfulBEq κ] {entries : List (κ × α)} {k : κ} {a : α}
    (distinct : (entries.map Prod.fst).Nodup) (inside : (k, a) ∈ entries) : entries.lookup k = some a := by
  obtain ⟨before, after, rfl⟩ := List.append_of_mem inside
  refine List.lookup_eq_some_iff.2 ⟨before, after, rfl, ?_⟩
  intro p earlier
  simp only [List.map_append, List.map_cons, List.nodup_append, List.mem_map] at distinct
  have other := distinct.2.2 _ ⟨p, earlier, rfl⟩ k (List.mem_cons_self ..)
  simpa using other.symm

private theorem check_ok {fields : List (String × (Json → Except Fault Unit))} {seen : List String}
    (distinct : (members.map Prod.fst).Nodup) (fresh : ∀ m ∈ members, m.1 ∉ seen)
    (passes : ∀ m ∈ members, ∃ passes, fields.lookup m.1 = some passes ∧ passes m.2 = .ok ()) :
    check fields seen (members.map fun m => (some m.1, m.2)) = .ok () := by
  induction members generalizing seen with
  | nil => rfl
  | cons m ms ih =>
    obtain ⟨unrepeated, distinct⟩ := List.nodup_cons.1 distinct
    obtain ⟨known, read, passed⟩ := passes m (List.mem_cons_self ..)
    have unseen : m.1 ∉ seen := fresh m (List.mem_cons_self ..)
    have others : check fields (m.1 :: seen) (ms.map fun m => (some m.1, m.2)) = .ok () := by
      refine ih distinct (fun n inside again => ?_) fun n inside => passes n (List.mem_cons_of_mem _ inside)
      rcases List.mem_cons.1 again with same | again
      · exact unrepeated (same ▸ List.mem_map_of_mem inside)
      · exact fresh n (List.mem_cons_of_mem _ inside) again
    simp [check, read, unseen, passed, others, bind, Except.bind]

private theorem named_map (members : List (String × Json)) :
    Json.named (members.map fun m => (some m.1, m.2)) = members := by
  simp [Json.named, List.filterMap_map]

/-- An object whose members are the fields is decoded if the fields accept it. -/
theorem decode_obj (accepts : r.Accepts members a) (fields : members.map Prod.fst = r.fields.map Prod.fst)
    (distinct : (r.fields.map Prod.fst).Nodup) : r.decode (.obj members) = .ok a := by
  have unrepeated : (members.map Prod.fst).Nodup := fields ▸ distinct
  have checked : check r.fields [] (members.map fun m => (some m.1, m.2)) = .ok () := by
    refine check_ok unrepeated (fun _ _ => List.not_mem_nil) ?_
    intro m inside
    have known : m.1 ∈ r.fields.map Prod.fst := fields ▸ List.mem_map_of_mem inside
    obtain ⟨f, field, same⟩ := List.mem_map.1 known
    refine ⟨f.2, lookup_of_mem distinct (same ▸ field), ?_⟩
    exact accepts.passes f field m.2 (lookup_of_mem unrepeated (same ▸ inside))
  simp [decode, Json.obj, checked, named_map, accepts.builds, bind, Except.bind]

/-! ## Values that are not told apart -/

/-- The same keys in the same order, with related values. -/
def Alike (rel : Option String → Json → Json → Prop) :
    List (Option String × Json) → List (Option String × Json) → Prop :=
  List.Forall₂ fun m n => m.1 = n.1 ∧ rel m.1 m.2 n.2

variable {rel : Option String → Json → Json → Prop} {ms ns : List (Option String × Json)}

/-- The fields do not tell related members apart. -/
structure Respects (r : RecordDecoder α) (rel : Option String → Json → Json → Prop) : Prop where
  passes : ∀ f ∈ r.fields, ∀ v w, rel (some f.1) v w → f.2 v = f.2 w
  builds : ∀ ms ns, Alike rel ms ns → r.build (Json.named ms) = r.build (Json.named ns)

private theorem lookup_alike (alike : Alike rel ms ns) (name : String) :
    ((Json.named ms).lookup name = none ∧ (Json.named ns).lookup name = none) ∨
      ∃ v w, (Json.named ms).lookup name = some v ∧ (Json.named ns).lookup name = some w ∧ rel (some name) v w := by
  induction alike with
  | nil => exact .inl ⟨rfl, rfl⟩
  | @cons m n ms ns first others ih =>
    obtain ⟨key, v⟩ := m
    obtain ⟨_, w⟩ := n
    obtain ⟨rfl, related⟩ := first
    cases key with
    | none => exact ih
    | some key =>
      by_cases same : name = key
      · subst same
        exact .inr ⟨v, w, by simp [Json.named], by simp [Json.named], related⟩
      · have skip (u : Json) (us : List (Option String × Json)) :
            (Json.named ((some key, u) :: us)).lookup name = (Json.named us).lookup name := by
          simp [Json.named, List.lookup_cons, beq_false_of_ne same]
        rwa [skip, skip]

namespace Respects

theorem map (respects : r.Respects rel) (f : α → β) : (f <$> r).Respects rel where
  passes := respects.passes
  builds := fun ms ns alike => congrArg (Except.map f) (respects.builds ms ns alike)

theorem seq {r : RecordDecoder (α → β)} {s : RecordDecoder α} (first : r.Respects rel) (second : s.Respects rel) :
    (r <*> s).Respects rel where
  passes := by
    intro field inside
    rcases List.mem_append.1 inside with inside | inside
    · exact first.passes field inside
    · exact second.passes field inside
  builds := by
    intro ms ns alike
    show (r.build (Json.named ms) >>= fun g => s.build (Json.named ms) >>= fun b => pure (g b)) =
      (r.build (Json.named ns) >>= fun g => s.build (Json.named ns) >>= fun b => pure (g b))
    rw [first.builds ms ns alike, second.builds ms ns alike]

theorem field {missing : Except Fault α} (same : ∀ v w, rel (some name) v w → d v = d w) :
    (field name d missing).Respects rel where
  passes := by
    intro field inside v w related
    obtain rfl := List.mem_singleton.1 inside
    simp only [same v w related]
  builds := by
    intro ms ns alike
    rcases lookup_alike alike name with ⟨left, right⟩ | ⟨v, w, left, right, related⟩
    · simp only [RecordDecoder.field, left, right]
    · simp only [RecordDecoder.field, left, right, same v w related]

theorem required (same : ∀ v w, rel (some name) v w → d v = d w) : (required name d).Respects rel := field same

theorem withDefault {otherwise : α} (same : ∀ v w, rel (some name) v w → d v = d w) :
    (withDefault name d otherwise).Respects rel := field same

end Respects

private theorem check_congr {fields : List (String × (Json → Except Fault Unit))} {seen : List String}
    (passes : ∀ f ∈ fields, ∀ v w, rel (some f.1) v w → f.2 v = f.2 w)
    (skipped : ∀ key v w, fields.lookup key = none → rel (some key) v w → v = w) (alike : Alike rel ms ns) :
    check fields seen ms = check fields seen ns := by
  induction alike generalizing seen with
  | nil => rfl
  | @cons m n ms ns first others ih =>
    obtain ⟨key, v⟩ := m
    obtain ⟨_, w⟩ := n
    obtain ⟨rfl, related⟩ := first
    cases key with
    | none => rfl
    | some key =>
      cases known : fields.lookup key with
      | none => simp only [check, known, skipped key v w known related, ih]
      | some read =>
        have reads : read v = read w := passes _ (mem_of_lookup known) v w related
        simp only [check, known, reads, ih]

/-- Objects with related members are decoded alike. -/
theorem decode_congr {whole : Bool} (respects : r.Respects rel)
    (skipped : ∀ key v w, r.fields.lookup key = none → rel (some key) v w → v = w) (alike : Alike rel ms ns) :
    r.decode (.record ms whole) = r.decode (.record ns whole) := by
  simp only [decode, check_congr respects.passes skipped alike, respects.builds ms ns alike]

end RecordDecoder

end PrinterWiring
