import PrinterWiring.Proofs.Session.Exclusive

/-!
# The report of conflicts

A registry may be read off any assignments, also off some that claim one port. What is reported of a port are then the
spellings of all its claimants but the first, each once (`mem_entriesFor`). So every contested port is reported, but it
has a single entry only where these claimants spell it alike (`conflicts_exact`).
-/

namespace PrinterWiring

namespace Address

/-- An address stands for a port, in any letter case. -/
def Means (a : Address) (role : Role) (port : String) : Prop := a.role = role ∧ Text.SameLetters a.port port

instance (a : Address) (role : Role) (port : String) : Decidable (a.Means role port) :=
  inferInstanceAs (Decidable (a.role = role ∧ Text.lower a.port = Text.lower port))

variable {a b c : Address} {role : Role} {port : String}

theorem Means.congr (same : b.Means role port) : a.Means b.role b.port ↔ a.Means role port := by
  obtain ⟨rfl, letters⟩ := same
  rw [Means, Means, letters.congr_right]

/-! ## The order of addresses -/

private theorem precedes_iff : a.precedes b = true ↔
    Enumerated.position a.role < Enumerated.position b.role ∨ (a.role = b.role ∧ a.port < b.port) := by
  simp [precedes]

private theorem not_precedes_self : ¬ a.precedes a = true := by
  rw [precedes_iff]
  rintro (less | ⟨_, less⟩)
  · exact absurd less (lt_irrefl _)
  · exact String.lt_irrefl _ less

private theorem precedes_trans (first : a.precedes b = true) (second : b.precedes c = true) : a.precedes c = true := by
  rw [precedes_iff] at first second ⊢
  rcases first with below | ⟨role, below⟩ <;> rcases second with below' | ⟨role', below'⟩
  · exact .inl (below.trans below')
  · exact .inl (role' ▸ below)
  · exact .inl (role ▸ below')
  · exact .inr ⟨role.trans role', String.lt_trans below below'⟩

private theorem eq_of_not_precedes (first : ¬ a.precedes b = true) (second : ¬ b.precedes a = true) : a = b := by
  rw [precedes_iff, not_or, not_and] at first second
  have role : a.role = b.role := Enumerated.position_inj.mp (le_antisymm (not_lt.mp second.1) (not_lt.mp first.1))
  have port : a.port = b.port := String.le_antisymm (second.2 role.symm) (first.2 role)
  cases a
  cases b
  cases role
  cases port
  rfl

end Address

/-! ## Sorted lists of addresses -/

/-- Addresses in order, each once. -/
def Ascending (as : List Address) : Prop := as.Pairwise fun a b => a.precedes b = true

private theorem mem_insertAddress {a b : Address} {as : List Address} : b ∈ insertAddress a as ↔ b = a ∨ b ∈ as := by
  induction as with
  | nil => simp [insertAddress]
  | cons c as ih =>
    unfold insertAddress
    split_ifs with before behind
    · simp
    · simp only [List.mem_cons, ih]
      exact or_left_comm
    · simp [Address.eq_of_not_precedes before behind]

theorem Ascending.insertAddress {a : Address} {as : List Address} (ascending : Ascending as) :
    Ascending (insertAddress a as) := by
  induction as with
  | nil => exact List.pairwise_singleton ..
  | cons c as ih =>
    obtain ⟨first, rest⟩ := List.pairwise_cons.mp ascending
    unfold PrinterWiring.insertAddress
    split_ifs with before behind
    · refine List.pairwise_cons.mpr ⟨fun b inside => ?_, ascending⟩
      rcases List.mem_cons.mp inside with rfl | later
      · exact before
      · exact Address.precedes_trans before (first b later)
    · refine List.pairwise_cons.mpr ⟨fun b inside => ?_, ih rest⟩
      rcases mem_insertAddress.mp inside with rfl | later
      · exact behind
      · exact first b later
    · exact ascending

private theorem sortedAddresses_ascending (as : List Address) : Ascending (sortedAddresses as) :=
  List.foldlRecOn (motive := Ascending) _ _ List.Pairwise.nil fun _ ascending _ _ => ascending.insertAddress

private theorem mem_sortedAddresses {b : Address} {as : List Address} : b ∈ sortedAddresses as ↔ b ∈ as := by
  have fold (sorted : List Address) :
      b ∈ as.foldl (fun sorted a => insertAddress a sorted) sorted ↔ b ∈ sorted ∨ b ∈ as := by
    induction as generalizing sorted with
    | nil => simp
    | cons a as ih =>
      rw [List.foldl_cons, ih, mem_insertAddress, List.mem_cons]
      tauto
  simpa [sortedAddresses] using fold []

theorem Ascending.nodup {as : List Address} (ascending : Ascending as) : as.Nodup := by
  refine List.Pairwise.imp ?_ ascending
  rintro a _ before rfl
  exact Address.not_precedes_self before

/-! ## What is reported of a port -/

namespace Registry

/-- The assignments that claim a port. -/
def claimants (r : Registry) (role : Role) (port : String) : List Assignment :=
  r.assignments.filter (·.port.Means role port)

/-- What the report of conflicts has for a port. -/
def entriesFor (r : Registry) (role : Role) (port : String) : List Address := r.conflicts.filter (·.Means role port)

/-- The report has a single entry for the port if two assignments or more claim it, and none else. -/
def ReportedOnce (r : Registry) (role : Role) (port : String) : Prop :=
  (r.entriesFor role port).length = if 2 ≤ (r.claimants role port).length then 1 else 0

/-- All claimants of the port but the first spell it alike. -/
def SpelledAlike (r : Registry) (role : Role) (port : String) : Prop :=
  ∀ x ∈ (r.claimants role port).tail, ∀ y ∈ (r.claimants role port).tail, x.port = y.port

variable {r : Registry} {role : Role} {port : String} {a : Address}

private theorem uses_eq (role : Role) (port : String) (x : Assignment) :
    uses role port x = decide (x.port.Means role port) := by
  rw [Bool.eq_iff_iff, Session.uses_iff, decide_eq_true_eq, Address.Means]

/-- Of the later claims those of one port are all of its claims, if it was claimed before, and else all but the first. -/
theorem filter_laterClaims (before as : List Assignment) :
    (laterClaims before as).filter (·.Means role port) =
      (if ∃ x ∈ before, x.port.Means role port then as.filter (·.port.Means role port)
        else (as.filter (·.port.Means role port)).tail).map (·.port) := by
  -- The list of earlier claims grows along the way. All that matters of it is whether it has a claim of this port.
  induction as generalizing before with
  | nil => simp [laterClaims]
  | cons x as ih =>
    simp only [laterClaims, uses_eq, List.any_eq_true, decide_eq_true_eq]
    by_cases here : x.port.Means role port
    · have claimed : (∃ y ∈ before, y.port.Means x.port.role x.port.port) ↔ ∃ y ∈ before, y.port.Means role port := by
        simp only [here.congr]
      by_cases earlier : ∃ y ∈ before, y.port.Means role port <;> simp [claimed, earlier, here, ih]
    · have other : ∀ tail, (x.port :: tail).filter (·.Means role port) = tail.filter (·.Means role port) := by
        simp [here]
      have rest : ((if ∃ y ∈ before, y.port.Means x.port.role x.port.port then x.port :: laterClaims (x :: before) as
          else laterClaims (x :: before) as).filter (·.Means role port)) =
          (laterClaims (x :: before) as).filter (·.Means role port) := by
        split_ifs
        · exact other _
        · rfl
      rw [rest, ih]
      simp [here]

/-- What is reported for a port are the spellings of its later claimants. -/
theorem mem_entriesFor : a ∈ r.entriesFor role port ↔ ∃ x ∈ (r.claimants role port).tail, x.port = a := by
  have later : a ∈ r.entriesFor role port ↔ a ∈ (laterClaims [] r.assignments).filter (·.Means role port) := by
    simp only [entriesFor, conflicts, List.mem_filter, mem_sortedAddresses]
  rw [later, filter_laterClaims, if_neg (by simp), List.mem_map, claimants]

/-- No spelling is reported twice. -/
theorem entriesFor_nodup : (r.entriesFor role port).Nodup := (sortedAddresses_ascending _).nodup.filter _

private theorem contested_iff : 2 ≤ (r.claimants role port).length ↔ ∃ x, x ∈ (r.claimants role port).tail := by
  rw [← List.length_pos_iff_exists_mem, List.length_tail]
  omega

private theorem entriesFor_eq_nil_iff : r.entriesFor role port = [] ↔ ¬ 2 ≤ (r.claimants role port).length := by
  rw [contested_iff, List.eq_nil_iff_forall_not_mem]
  constructor
  · rintro none ⟨x, inside⟩
    exact none x.port (mem_entriesFor.mpr ⟨x, inside, rfl⟩)
  · intro none a inside
    obtain ⟨x, inside, _⟩ := mem_entriesFor.mp inside
    exact none ⟨x, inside⟩

/-- A contested port is reported once just if its later claimants spell it alike. -/
theorem reportedOnce_iff : r.ReportedOnce role port ↔ r.SpelledAlike role port := by
  unfold ReportedOnce
  constructor
  · intro once x first y second
    rw [if_pos (contested_iff.mpr ⟨x, first⟩), List.length_eq_one_iff] at once
    obtain ⟨a, single⟩ := once
    have spelling (z : Assignment) (inside : z ∈ (r.claimants role port).tail) : z.port = a := by
      have listed : z.port ∈ r.entriesFor role port := mem_entriesFor.mpr ⟨z, inside, rfl⟩
      rwa [single, List.mem_singleton] at listed
    exact (spelling x first).trans (spelling y second).symm
  · intro alike
    split_ifs with contested
    · obtain ⟨x, inside⟩ := contested_iff.mp contested
      have members (a : Address) : a ∈ r.entriesFor role port ↔ a ∈ [x.port] := by
        rw [mem_entriesFor, List.mem_singleton]
        constructor
        · rintro ⟨y, inside', rfl⟩
          exact alike y inside' x inside
        · rintro rfl
          exact ⟨x, inside, rfl⟩
      exact ((List.perm_ext_iff_of_nodup entriesFor_nodup (List.nodup_singleton _)).mpr members).length_eq
    · rw [entriesFor_eq_nil_iff.mpr contested, List.length_nil]

/-- Whatever assignments a registry is read off, its conflicts are listed in order and each once. Those of one port are
the spellings of its claimants but the first; there are some exactly if the port has two claimants or more, and then there
is a single one exactly if these spell it alike. -/
theorem conflicts_exact (r : Registry) :
    Ascending r.conflicts ∧ ∀ role port,
      (∀ a, a ∈ r.entriesFor role port ↔ ∃ x ∈ (r.claimants role port).tail, x.port = a) ∧
        (r.entriesFor role port ≠ [] ↔ 2 ≤ (r.claimants role port).length) ∧
        (r.ReportedOnce role port ↔ r.SpelledAlike role port) :=
  ⟨sortedAddresses_ascending _, fun _ _ =>
    ⟨fun _ => mem_entriesFor, by rw [Ne, entriesFor_eq_nil_iff, not_not], reportedOnce_iff⟩⟩

/-- Three fans at one port, which each of them spells differently. -/
def thriceClaimedFan : Registry where
  assignments :=
    [⟨.fan .exhaust, .primary, ⟨.mainboard, "FAN3"⟩, .fan⟩, ⟨.fan .chamber, .primary, ⟨.mainboard, "fan3"⟩, .fan⟩,
      ⟨.fan .hotend, .primary, ⟨.mainboard, "Fan3"⟩, .fan⟩]

/-- A port with three claimants that spell it in three ways. -/
theorem thriceClaimedFan_reported_twice : ¬ ∀ role port, thriceClaimedFan.ReportedOnce role port := by
  intro once
  have entries : (thriceClaimedFan.entriesFor .mainboard "FAN3").length = 2 := by decide +kernel
  have claims : (thriceClaimedFan.claimants .mainboard "FAN3").length = 3 := by decide +kernel
  have single := once .mainboard "FAN3"
  rw [ReportedOnce, entries, claims] at single
  cases single

end Registry

end PrinterWiring
