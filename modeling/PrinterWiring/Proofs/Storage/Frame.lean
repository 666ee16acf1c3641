import Mathlib.Data.List.Induction
import PrinterWiring.Proofs.Checks
import PrinterWiring.Storage.Files

/-!
# What replacing a file leaves alone

Replacing a file puts its text at its place and takes the temporary name away; every other file stays as it was
(`at?_replace`), also after several replacements (`at?_foldl_replace`). No path is cut off, because directories are
only added (`resolve_replace`), so that what was replaced can be read (`read_replace`), and what was a file is one
still, unless it had the temporary name (`isFile_replace`).
-/

namespace PrinterWiring

/-- What an operating system accepts as a path: it has a name, no name and not the whole is too long, and nothing ends
it early. -/
structure Path.Usable (path : String) : Prop where
  filled : path ≠ ""
  whole : ∀ c ∈ path.toList, c.toNat ≠ 0
  short : path.utf8ByteSize < 4096
  names : ∀ name ∈ Path.names path, name.utf8ByteSize ≤ 255

namespace Files

variable {fs : Files} {r : Replacement} {place next : List String} {path name : String}

/-! ## Places -/

private theorem lookup_filter (entries : List (List String × String)) (gone place : List String) :
    (entries.filter (·.1 != gone)).lookup place = if place = gone then none else entries.lookup place := by
  induction entries with
  | nil => simp
  | cons e entries ih =>
    obtain ⟨here, text⟩ := e
    by_cases erased : here = gone
    · subst erased
      rw [List.filter_cons_of_neg (by simp), ih]
      by_cases same : place = here
      · rw [if_pos same, if_pos same]
      · rw [if_neg same, if_neg same, List.lookup_cons, beq_false_of_ne same]
    · rw [List.filter_cons_of_pos (by simpa using erased), List.lookup_cons, List.lookup_cons, ih]
      by_cases same : place = here
      · subst same
        simp [erased]
      · rw [beq_false_of_ne same]

/-- A replacement changes what is at its target and at its temporary name, and nothing else. -/
theorem at?_replace (fs : Files) (r : Replacement) (place : List String) :
    (fs.replace r).at? place =
      if place = Path.place r.target then some r.text
      else if place = Path.place r.temporary then none
      else fs.at? place := by
  have erased (fs : Files) (gone : List String) :
      (fs.erase gone).at? place = if place = gone then none else fs.at? place := lookup_filter fs.entries gone place
  have put (fs : Files) (here : List String) (text : String) :
      (fs.put here text).at? place = if place = here then some text else fs.at? place := by
    by_cases same : place = here
    · simp [Files.put, at?, same]
    · have rest := erased fs here
      rw [if_neg same] at rest ⊢
      rw [← rest, Files.put, at?, List.lookup_cons, beq_false_of_ne same]
      rfl
  rw [replace, write, put, ← erased]
  rfl

/-- After replacements in turn, a place is as it was, or it is that of a file that was replaced and holds its text, or
it is that of a temporary name and holds nothing. -/
theorem at?_foldl_replace (fs : Files) (rs : List Replacement) (place : List String) :
    (rs.foldl replace fs).at? place = fs.at? place ∨
      ∃ r ∈ rs, (place = Path.place r.target ∧ (rs.foldl replace fs).at? place = some r.text) ∨
        (place = Path.place r.temporary ∧ (rs.foldl replace fs).at? place = none) := by
  induction rs using List.reverseRecOn with
  | nil => exact .inl rfl
  | append_singleton rs r ih =>
    rw [List.foldl_append, List.foldl_cons, List.foldl_nil, at?_replace]
    by_cases target : place = Path.place r.target
    · rw [if_pos target]
      exact .inr ⟨r, by simp, .inl ⟨target, rfl⟩⟩
    · rw [if_neg target]
      by_cases temporary : place = Path.place r.temporary
      · rw [if_pos temporary]
        exact .inr ⟨r, by simp, .inr ⟨temporary, rfl⟩⟩
      · rw [if_neg temporary]
        rcases ih with same | ⟨q, earlier, held⟩
        · exact .inl same
        · exact .inr ⟨q, by simp [earlier], held⟩

/-! ## Paths -/

private theorem isDirectory_start (fs : Files) (path : String) : fs.isDirectory (Path.start path) = true := by
  rw [Path.start]
  split <;> simp [isDirectory]

private theorem isDirectory_of_passed (inside : place ∈ Path.passed r.target) :
    (fs.replace r).isDirectory place = true := by
  have made : place ∈ (fs.replace r).directories := List.mem_append_left fs.directories inside
  simp [isDirectory, made]

private theorem isDirectory_replace (r : Replacement) (there : fs.isDirectory place = true) :
    (fs.replace r).isDirectory place = true := by
  have kept : place ∈ fs.directories → place ∈ (fs.replace r).directories :=
    List.mem_append_right (Path.passed r.target)
  simp only [isDirectory, Bool.or_eq_true, List.contains_iff_mem] at there ⊢
  exact there.imp_right kept

private theorem step_eq_ok :
    fs.step place name = .ok next ↔
      fs.isDirectory place = true ∧ name.utf8ByteSize ≤ 255 ∧ Path.step place name = next := by
  rw [step]
  by_cases there : fs.isDirectory place = true
  · by_cases long : name.utf8ByteSize > 255
    · simp [there, long, Nat.not_le.2 long]
    · simp [there, long, Nat.le_of_not_lt long]
  · simp [there]

private theorem foldlM_step_place {names : List String} (arrived : names.foldlM fs.step place = .ok next) :
    names.foldl Path.step place = next := by
  induction names generalizing place with
  | nil => exact Except.ok.inj arrived
  | cons name names ih =>
    rw [List.foldlM_cons, bind_eq_ok] at arrived
    obtain ⟨_, stepped, rest⟩ := arrived
    obtain ⟨_, _, rfl⟩ := step_eq_ok.1 stepped
    exact ih rest

private theorem foldlM_step_replace {names : List String} (r : Replacement)
    (arrived : names.foldlM fs.step place = .ok next) : names.foldlM (fs.replace r).step place = .ok next := by
  induction names generalizing place with
  | nil => exact arrived
  | cons name names ih =>
    rw [List.foldlM_cons, bind_eq_ok] at arrived ⊢
    obtain ⟨here, stepped, rest⟩ := arrived
    obtain ⟨there, named⟩ := step_eq_ok.1 stepped
    exact ⟨here, step_eq_ok.2 ⟨isDirectory_replace r there, named⟩, ih rest⟩

/-- A path is resolved if it can be named and all directories on its way are there. -/
theorem resolve_eq_ok :
    fs.resolve path = .ok place ↔
      (∀ c ∈ path.toList, c.toNat ≠ 0) ∧ path ≠ "" ∧ path.utf8ByteSize < 4096 ∧
        (Path.names path).foldlM fs.step (Path.start path) = .ok place := by
  rw [resolve]
  split
  · next cut =>
    obtain ⟨c, inside, zero⟩ : ∃ c ∈ path.toList, c.toNat = 0 := by simpa using cut
    exact iff_of_false nofun fun accepted => accepted.1 c inside zero
  · next whole =>
    have whole : ∀ c ∈ path.toList, c.toNat ≠ 0 := by simpa using whole
    split
    · next empty => exact iff_of_false nofun fun accepted => accepted.2.1 (by simpa using empty)
    · next filled =>
      have filled : path ≠ "" := by simpa using filled
      split
      · next long => exact iff_of_false nofun fun accepted => Nat.not_lt.2 long accepted.2.2.1
      · next short =>
        exact ⟨fun arrived => ⟨whole, filled, Nat.not_le.1 short, arrived⟩, fun accepted => accepted.2.2.2⟩

private theorem place_of_resolve (found : fs.resolve path = .ok place) : Path.place path = place :=
  foldlM_step_place (resolve_eq_ok.1 found).2.2.2

/-- A path goes on leading where it led. -/
theorem resolve_replace (r : Replacement) (found : fs.resolve path = .ok place) :
    (fs.replace r).resolve path = .ok place := by
  obtain ⟨whole, filled, short, arrived⟩ := resolve_eq_ok.1 found
  exact resolve_eq_ok.2 ⟨whole, filled, short, foldlM_step_replace r arrived⟩

private theorem foldlM_step_of_directories {names : List String} (start : fs.isDirectory place = true)
    (through : ∀ passed ∈ Path.steps place names.dropLast, fs.isDirectory passed = true)
    (short : ∀ name ∈ names, name.utf8ByteSize ≤ 255) :
    names.foldlM fs.step place = .ok (names.foldl Path.step place) := by
  induction names generalizing place with
  | nil => rfl
  | cons name names ih =>
    have stepped := step_eq_ok.2 ⟨start, short name List.mem_cons_self, rfl⟩
    rw [List.foldlM_cons, stepped]
    cases names with
    | nil => rfl
    | cons after names =>
      have next := through (Path.step place name) List.mem_cons_self
      exact ih next (fun passed inside => through passed (List.mem_cons_of_mem _ inside))
        (fun name inside => short name (List.mem_cons_of_mem _ inside))

/-- What is read of a path is the text at its place. -/
theorem read_eq_ok {text : String} :
    fs.read path = .ok text ↔ ∃ place, fs.resolve path = .ok place ∧ fs.at? place = some text := by
  rw [read, bind_eq_ok]
  refine exists_congr fun place => and_congr_right fun _ => ?_
  cases held : fs.at? place <;> simp

/-- What was replaced can be read. -/
theorem read_replace (fs : Files) (usable : Path.Usable r.target) : (fs.replace r).read r.target = .ok r.text := by
  have arrived : (Path.names r.target).foldlM (fs.replace r).step (Path.start r.target) = .ok (Path.place r.target) :=
    foldlM_step_of_directories (isDirectory_start _ _) (fun _ => isDirectory_of_passed) usable.names
  have found := resolve_eq_ok.2 ⟨usable.whole, usable.filled, usable.short, arrived⟩
  refine read_eq_ok.2 ⟨_, found, ?_⟩
  rw [at?_replace, if_pos rfl]

theorem exists?_of_read {text : String} (held : fs.read path = .ok text) : fs.exists? path = true := by
  rw [exists?, held]

private theorem isFile_iff :
    fs.isFile path = true ↔ fs.resolve path = .ok (Path.place path) ∧ ∃ text, fs.at? (Path.place path) = some text := by
  have read : fs.isFile path = true ↔ ∃ text, fs.read path = .ok text := by
    rw [isFile, text?]
    cases fs.read path <;> simp [Except.toOption]
  simp only [read, read_eq_ok]
  constructor
  · rintro ⟨text, place, found, held⟩
    obtain rfl := place_of_resolve found
    exact ⟨found, text, held⟩
  · rintro ⟨found, text, held⟩
    exact ⟨text, _, found, held⟩

/-- What was a file is one still, unless it had the temporary name. -/
theorem isFile_replace (r : Replacement) (file : fs.isFile path = true) :
    (fs.replace r).isFile path = true ↔
      (Path.place path = Path.place r.temporary → Path.place path = Path.place r.target) := by
  obtain ⟨found, text, held⟩ := isFile_iff.1 file
  rw [isFile_iff, at?_replace, and_iff_right (resolve_replace r found)]
  by_cases target : Path.place path = Path.place r.target
  · simp [target]
  · rw [if_neg target]
    by_cases temporary : Path.place path = Path.place r.temporary
    · rw [if_pos temporary]
      exact iff_of_false (by simp) fun only => target (only temporary)
    · rw [if_neg temporary]
      exact iff_of_true ⟨text, held⟩ fun same => absurd same temporary

end Files

end PrinterWiring
