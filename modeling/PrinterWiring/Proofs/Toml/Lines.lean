import PrinterWiring.Proofs.Toml.Quoted

/-!
# Lines of a TOML document

How the two lines are read that a plain document is written in: an entry, which gives a name a quoted text
(`tokens_entry`, `readLine_entry`), and the header of a table (`tokens_header`, `readLine_header`).
-/

namespace PrinterWiring.Toml

variable {c : Char} {rest after : List Char} {spaced : Bool} {w : Word} {ts : List Token}

/-! ## Cutting -/

private theorem tokens_blank (spaced : Bool) (rest : List Char) : tokens spaced (' ' :: rest) = tokens true rest := by
  rw [tokens]
  simp

theorem tokens_mark {t : Token} (mark : punctuation? spaced c = some t) :
    tokens spaced (c :: rest) = t :: tokens false rest := by
  have other : c ≠ ' ' ∧ c ≠ '\t' ∧ c ≠ '\r' ∧ c ≠ '#' := by
    refine ⟨?_, ?_, ?_, ?_⟩ <;>
    · rintro rfl
      exact absurd mark (by simp [punctuation?])
  rw [tokens]
  simp [other, mark]

private theorem tokens_word (bare : isBare c = true) (read : word? (c :: rest) = some (w, after)) :
    tokens spaced (c :: rest) = consWord w (tokens false after) := by
  obtain ⟨blank, tab, line, comment, unmarked⟩ :
      c ≠ ' ' ∧ c ≠ '\t' ∧ c ≠ '\r' ∧ c ≠ '#' ∧ punctuation? spaced c = none := by
    simp [isBare] at bare
    simp [punctuation?, bare]
  rw [tokens, if_neg (by simp [blank, tab, line]), if_neg comment]
  simp only [unmarked]
  split
  · next found =>
    obtain ⟨rfl, rfl⟩ := Prod.mk.inj (Option.some.inj (found.symm.trans read))
    rfl
  · next missed => simp [missed] at read

/-! ## Names -/

/-- Whether a name needs no quotes: it has bare characters only, and it is neither a date nor several names. -/
def isName (cs : List Char) : Bool :=
  !cs.isEmpty && cs.all isBare && !cs.any isQuote && !isDay cs && key? [.bare cs] = some [.ofList cs]

/-- A name that needs no quotes. -/
structure IsName (name : String) : Prop where
  filled : name.toList ≠ []
  bare : ∀ c ∈ name.toList, isBare c = true
  unquoted : ∀ c ∈ name.toList, isQuote c = false
  undated : isDay name.toList = false
  single : key? [.bare name.toList] = some [name]

theorem isName_iff {name : String} : isName name.toList = true ↔ IsName name := by
  simp only [isName, Bool.and_eq_true, Bool.not_eq_true', List.isEmpty_eq_false_iff, List.all_eq_true,
    List.any_eq_false, Bool.not_eq_true, decide_eq_true_eq, String.ofList_toList]
  constructor
  · rintro ⟨⟨⟨⟨filled, bare⟩, unquoted⟩, undated⟩, single⟩
    exact ⟨filled, bare, unquoted, undated, single⟩
  · rintro ⟨filled, bare, unquoted, undated, single⟩
    exact ⟨⟨⟨⟨filled, bare⟩, unquoted⟩, undated⟩, single⟩

private theorem spanBare_name {cs : List Char} (bare : ∀ c ∈ cs, isBare c = true)
    (unquoted : ∀ c ∈ cs, isQuote c = false)
    (stops : isBare c = false) (behindDot : Bool) : spanBare behindDot (cs ++ c :: rest) = (cs, c :: rest) := by
  induction cs generalizing behindDot with
  | nil => simp [spanBare, stops]
  | cons d cs ih =>
    have next := ih (fun c inside => bare c (List.mem_cons_of_mem d inside))
      (fun c inside => unquoted c (List.mem_cons_of_mem d inside)) (d = '.')
    simp [spanBare, bare d List.mem_cons_self, unquoted d List.mem_cons_self, next]

private theorem tokens_name {name : String} (named : IsName name) (stops : isBare c = false) :
    tokens spaced (name.toList ++ c :: rest) = consWord (.bare name.toList) (tokens false (c :: rest)) := by
  obtain ⟨filled, bare, unquoted, undated, _⟩ := named
  have spanned : spanBare false (name.toList ++ c :: rest) = (name.toList, c :: rest) :=
    spanBare_name bare unquoted stops false
  generalize name.toList = cs at *
  obtain ⟨d, cs, rfl⟩ := List.exists_cons_of_ne_nil filled
  have read : word? (d :: cs ++ c :: rest) = some (.bare (d :: cs), c :: rest) := by
    show (if isQuote d then _ else bare? (d :: cs ++ c :: rest)) = _
    rw [unquoted d List.mem_cons_self, if_neg Bool.false_ne_true, bare?, spanned]
    split <;> simp_all
  exact tokens_word (bare d List.mem_cons_self) read

/-- The line of an entry with a quoted text, and what is behind it. -/
def entryLine (name s : String) (rest : List Char) : List Char :=
  name.toList ++ ' ' :: '=' :: ' ' :: ((quote s).toList ++ '\n' :: rest)

/-- The line of the header of a table, and what is behind it. -/
def headerLine (name : String) (rest : List Char) : List Char := '[' :: (name.toList ++ ']' :: '\n' :: rest)

/-- The words and marks of an entry with a quoted text. -/
theorem tokens_entry {name : String} (named : IsName name) (s : String) (spaced : Bool) (rest : List Char) :
    ∃ w, value? [w] = some (.text s) ∧
      tokens spaced (entryLine name s rest) =
        .words [.bare name.toList] :: .equals :: .words [w] :: .newline :: tokens false rest := by
  have clear : ∀ d, isQuote d = true → ('\n' :: rest).head? ≠ some d := by
    rintro d quotes same
    obtain rfl := Option.some.inj same
    exact absurd quotes (by decide)
  obtain ⟨w, read, value⟩ := word?_quote s clear
  obtain ⟨d, cs, quotes, front⟩ := (quotation_quote s).opens
  have quoted : tokens true ((quote s).toList ++ '\n' :: rest) = consWord w (tokens false ('\n' :: rest)) := by
    rw [front] at read ⊢
    refine tokens_word ?_ read
    rcases isQuote_iff.1 quotes with rfl | rfl <;> decide
  refine ⟨w, value, ?_⟩
  rw [entryLine, tokens_name named rfl, tokens_blank, tokens_mark rfl, tokens_blank, quoted, tokens_mark rfl]
  rfl

/-- The marks and the word of the header of a table. -/
theorem tokens_header {name : String} (named : IsName name) (spaced : Bool) (rest : List Char) :
    tokens spaced (headerLine name rest) =
      .openList spaced :: .words [.bare name.toList] :: .closeList false :: .newline :: tokens false rest := by
  rw [headerLine, tokens_mark rfl, tokens_name named rfl, tokens_mark rfl, tokens_mark rfl]
  rfl

/-! ## Reading -/

variable {document : Toml} {header : List String} {entries : List (String × Toml)} {name : String}

/-- A line with a name and a value adds an entry to the table. -/
theorem readLine_entry {v : Toml} (named : IsName name) (valued : value? [w] = some v) :
    readLine document header (.words [.bare name.toList] :: .equals :: .words [w] :: .newline :: ts) =
      ((OpenLine.mk document header [name]).finish v).bind fun document => readLine document header ts := by
  simp [readLine, readValue, readAfter, named.single, valued]

theorem readLine_header (named : IsName name) {spaced spaced' : Bool} :
    readLine document header
        (.openList spaced :: .words [.bare name.toList] :: .closeList spaced' :: .newline :: ts) =
      (openTable [name] document).bind fun document => readLine document [name] ts := by
  simp [readLine, named.single]

/-! ## Adding -/

private theorem replaced_append (v v' : Toml) (unset : entries.lookup name = none) :
    replaced name v (entries ++ [(name, v')]) = entries ++ [(name, v)] := by
  have others : replaced name v entries = entries := by
    conv => rhs; rw [← List.map_id entries]
    refine List.map_congr_left fun e inside => ?_
    have other : name ≠ e.1 := by simpa using List.lookup_eq_none_iff.1 unset e inside
    exact if_neg other.symm
  rw [replaced, List.map_append, ← replaced, others]
  simp

/-- A header opens a table behind those that are there. -/
theorem openTable_new (unset : entries.lookup name = none) :
    openTable [name] (.table .opened entries) = some (.table .opened (entries ++ [(name, .table .opened [])])) := by
  simp [openTable, change, unset]

/-- An entry is added to the table that was opened last. -/
theorem finish_last {fields : List (String × Toml)} {field : String} (v : Toml) (unset : entries.lookup name = none)
    (unheld : fields.lookup field = none) :
    (OpenLine.mk (.table .opened (entries ++ [(name, .table .opened fields)])) [name] [field]).finish v =
      some (.table .opened (entries ++ [(name, .table .opened (fields ++ [(field, v)]))])) := by
  have found : (entries ++ [(name, Toml.table .opened fields)]).lookup name = some (.table .opened fields) := by
    simp [List.lookup_append, unset]
  simp [OpenLine.finish, change, define, found, unheld, replaced_append, unset]

end PrinterWiring.Toml
