import PrinterWiring.CommandLine.Run
import PrinterWiring.Proofs.CommandLine.Actions
import PrinterWiring.Proofs.Preferences.Checked
import PrinterWiring.Proofs.Storage.Frame

/-!
# What commands do to files

A command replaces its own target or nothing: a session command its session file, a rendering the configuration files of
its directory, a setting the file of preferences (`Command.Replaces`). Every command looks first and writes then, so that
it is all or nothing (`Command.allOrNothing`). So whatever the arguments and whatever the files hold, a run that fails
leaves every file as it was, and one that succeeds changes none but the target of its command and the temporary names on
the way to it (`run_confined`). To be told more is no difference (`Command.ofArguments_verbose`).
-/

namespace PrinterWiring.CommandLine

open PrinterWiring.CommandLine.Action (AllOrNothing Looks Writes)

variable {h : Host}

/-- The files after a run of the program. Misuse does nothing to them. -/
def filesAfter (h : Host) (arguments : List String) : Files := (run? h arguments).elim h.files (·.files h.files)

/-- The exit code of a run of the program. Misuse has a code of its own. -/
def exitCode (h : Host) (arguments : List String) : Nat := (run? h arguments).elim 2 Outcome.exitCode

/-- What a command may replace. For a command without a rule that is nothing. -/
inductive Command.Replaces (h : Host) : Command → Replacement → Prop where
  | created {mainboard toolboard : Option String} {force : Bool} {source : SessionSource} (s : Session) :
    Replaces h (.createSession mainboard toolboard force source) (saving source.path s)
  | changed {change : SessionChange} {source : SessionSource} (s : Session) :
    Replaces h (.changeSession change source) (saving source.path s)
  | rendered {mode : Option RenderMode} {directory : Option String} {source : SessionSource} {o : OpenSession}
    {r : Rendered} {file : ConfigFile} {lines : List ConfigLine} (opened : source.openExisting h = .ok o)
    (done : o.session.render (mode.getD o.preferences.mode) = .ok r) (inside : (file, lines) ∈ r.files) :
    Replaces h (.generate mode (.write directory) source)
      (writing (directory.getD o.preferences.outputDirectory) (file.name, configText lines))
  | preferred {key v : String} {given : Option String} (p : Preferences) :
    Replaces h (.setPreference key v given)
      ⟨h.preferencesPath given, Path.withExtension "toml.tmp" (h.preferencesPath given), p.toText⟩

/-! ## Being told more -/

/-- To be told more changes nothing: the flag may stand in front of any command. -/
theorem Command.ofArguments_verbose {flag name : String} (more : flag ∈ ["-v", "--verbose"])
    (operand : Argument.ofText name = .operand name) (ss : List String) :
    Command.ofArguments (flag :: name :: ss) = Command.ofArguments (name :: ss) := by
  have plain : readLeading [versionForm] (name :: ss) = .ok (.none, name :: ss) := by
    simp [readLeading, gatherLeading, Reading.begun, operand]
  have told : (readLeading [versionForm] (flag :: name :: ss)) = .ok (⟨[("verbose", "")], []⟩, name :: ss) := by
    have look : Argument.ofText flag = .letters ['v'] ∨ Argument.ofText flag = .named "verbose" none := by
      simp only [List.mem_cons, List.not_mem_nil, or_false] at more
      rcases more with rfl | rfl
      · exact .inl rfl
      · exact .inr rfl
    have read : Reading.begun.take ([versionForm] ++ commonForms) (Argument.ofText flag) =
        .ok ⟨⟨[("verbose", "")], []⟩, none⟩ := by
      rcases look with look | look <;> rw [look] <;> rfl
    have front : gatherLeading ([versionForm] ++ commonForms) .begun (flag :: name :: ss) =
        (Reading.begun.take ([versionForm] ++ commonForms) (Argument.ofText flag)).bind fun r =>
          gatherLeading ([versionForm] ++ commonForms) r (name :: ss) := by
      rcases look with look | look <;> rw [gatherLeading, look] <;> rfl
    rw [readLeading, front, read]
    simp [Except.bind, gatherLeading, operand]
  simp only [ofArguments, plain, told]
  rfl

/-! ## Commands that only look -/

private theorem looks_opening {load : Host → Except Failure OpenSession} :
    Looks h (fun o => load h = .ok o) (opening load) := by
  refine Looks.here.bind fun _ here => here ▸ Looks.lift.bind fun o opened => ?_
  exact Looks.warn.bind fun _ _ => Looks.pure opened

private theorem looks_listBoards {role : Option Role} {json : Bool} {sources : Sources} :
    Looks h (fun _ => True) (listBoards role json sources) := by
  refine Looks.here.bind fun _ _ => Looks.lift.bind fun (p, c) _ => ?_
  dsimp only
  split_ifs <;> exact Looks.print

private theorem looks_showBoard {id : String} {category : Option Category} {json : Bool} {sources : Sources} :
    Looks h (fun _ => True) (showBoard id category json sources) := by
  refine Looks.here.bind fun _ _ => Looks.lift.bind fun (p, c) _ => Looks.lift.bind fun b _ => ?_
  cases json with
  | true => exact Looks.print
  | false =>
    refine Looks.print.bind fun _ _ => Looks.forM fun wanted => Looks.print.bind fun _ _ => ?_
    split_ifs
    · exact Looks.throw
    · exact Looks.pure trivial

private theorem looks_listFunctions {category : Option Category} {json : Bool} :
    Looks h (fun _ => True) (listFunctions category json) := by
  cases json <;> exact Looks.print

private theorem looks_showSession {json : Bool} {source : SessionSource} :
    Looks h (fun _ => True) (showSession json source) := looks_opening.bind fun _ _ => Looks.print

/-- That the report fails is said behind the report, and changes nothing either. -/
private theorem looks_validate {json strict : Bool} {source : SessionSource} :
    Looks h (fun _ => True) (validate json strict source) := by
  exact looks_opening.bind fun o _ => Looks.print.bind fun _ _ => Looks.lift.imp fun _ _ => trivial

private theorem looks_showPreferences {json : Bool} {given : Option String} :
    Looks h (fun _ => True) (showPreferences json given) :=
  Looks.here.bind fun _ _ => Looks.lift.bind fun _ _ => Looks.print

/-! ## Commands that replace a file -/

/-- A session that is not saved is refused before its file is touched. -/
theorem allOrNothing_save {o : OpenSession} {s : Session} {P : Replacement → Prop} (allowed : P (saving o.path s)) :
    AllOrNothing h P (o.save s) := by
  rw [OpenSession.save]
  split_ifs
  · exact (Writes.replace allowed).allOrNothing
  · exact Looks.throw (Q := fun _ => True) |>.allOrNothing

private theorem openOrCreate_path {source : SessionSource} {o : OpenSession} (opened : source.openOrCreate h = .ok o) :
    o.path = source.path := by
  obtain ⟨⟨p, c⟩, _, opened⟩ := bind_eq_ok.1 opened
  dsimp only at opened
  split_ifs at opened
  · obtain ⟨d, _, opened⟩ := bind_eq_ok.1 opened
    cases opened
    rfl
  · cases opened
    rfl

private theorem openExisting_path {source : SessionSource} {o : OpenSession} (opened : source.openExisting h = .ok o) :
    o.path = source.path := by
  rw [SessionSource.openExisting] at opened
  split_ifs at opened
  exact openOrCreate_path opened

private theorem allOrNothing_createSession {mainboard toolboard : Option String} {force : Bool}
    {source : SessionSource} :
    AllOrNothing h ((Command.createSession mainboard toolboard force source).Replaces h)
      (createSession mainboard toolboard force source) := by
  refine Looks.here.before fun _ _ => ?_
  split_ifs
  · exact Looks.throw (Q := fun _ => True) |>.allOrNothing
  · refine Looks.here.before fun _ _ => Looks.lift.before fun _ _ => Looks.lift.before fun (_, _) _ => ?_
    refine Looks.lift.before fun (s, _) _ => ?_
    exact ((Writes.replace (.created s)).bind fun _ => Writes.print).allOrNothing

private theorem allOrNothing_changeSession {change : SessionChange} {source : SessionSource} :
    AllOrNothing h ((Command.changeSession change source).Replaces h) (change.run source) := by
  refine Looks.lift.before fun _ _ => looks_opening.before fun o opened => Looks.lift.before fun done _ => ?_
  have same : o.path = source.path := by
    split_ifs at opened
    · exact openExisting_path opened
    · exact openOrCreate_path opened
  dsimp only
  cases done.session with
  | none => exact Writes.print.allOrNothing
  | some s => exact (allOrNothing_save (same ▸ .changed s)).andThen fun _ => Writes.print

private theorem allOrNothing_generate {mode : Option RenderMode} {delivery : Delivery} {source : SessionSource} :
    AllOrNothing h ((Command.generate mode delivery source).Replaces h) (generate mode delivery source) := by
  refine looks_opening.before fun o opened => Looks.lift.before fun rendered drawn => ?_
  cases delivery with
  | printJson => exact Writes.print.allOrNothing
  | print => exact (Writes.warn.bind fun _ => Writes.print).allOrNothing
  | write directory =>
    refine (Writes.warn.bind fun _ => Writes.bind (Writes.forM fun r inside => ?_) fun _ => Writes.print).allOrNothing
    simp only [Rendered.texts, List.map_map, List.mem_map] at inside
    obtain ⟨⟨file, lines⟩, inside, rfl⟩ := inside
    exact Writes.replace (.rendered opened (mapError_eq_ok.1 drawn) inside)

private theorem allOrNothing_setPreference {key v : String} {given : Option String} :
    AllOrNothing h ((Command.setPreference key v given).Replaces h) (setPreference key v given) := by
  refine Looks.here.before fun _ here => here ▸ Looks.lift.before fun p _ => Looks.lift.before fun r saved => ?_
  obtain ⟨_, rfl⟩ := Preferences.save_eq_ok.1 (mapError_eq_ok.1 saved)
  exact ((Writes.replace (.preferred p)).bind fun _ => Writes.print).allOrNothing

/-! ## Runs -/

/-- Every command is all or nothing, and it only replaces what it may replace. -/
theorem Command.allOrNothing (c : Command) : AllOrNothing h (c.Replaces h) c.action := by
  cases c with
  | listBoards => exact looks_listBoards.allOrNothing
  | showBoard => exact looks_showBoard.allOrNothing
  | listFunctions => exact looks_listFunctions.allOrNothing
  | createSession => exact allOrNothing_createSession
  | showSession => exact looks_showSession.allOrNothing
  | changeSession => exact allOrNothing_changeSession
  | validate => exact looks_validate.allOrNothing
  | generate => exact allOrNothing_generate
  | showPreferences => exact looks_showPreferences.allOrNothing
  | setPreference => exact allOrNothing_setPreference

/-- A command that fails leaves every file as it was. -/
theorem files_of_failure {c : Command} (failed : (c.run h).exitCode ≠ 0) : (c.run h).files h.files = h.files := by
  have nothing := (c.allOrNothing.outcome.resolve_right fun done => failed done.1).2
  rw [Course.files, Command.run, nothing, List.foldl_nil]

/-- A run that fails leaves the files as they were. One that succeeds asks for help, and leaves them so too, or it is
that of a command, and every place is as it was but for the targets of the command and their temporary names. -/
theorem run_confined (h : Host) (arguments : List String) :
    (exitCode h arguments ≠ 0 ∧ filesAfter h arguments = h.files) ∨
      exitCode h arguments = 0 ∧
        ((Command.ofArguments arguments = .error .help ∧ filesAfter h arguments = h.files) ∨
          ∃ c, Command.ofArguments arguments = .ok c ∧ ∀ place,
            (filesAfter h arguments).at? place = h.files.at? place ∨
              ∃ r, c.Replaces h r ∧
                ((place = Path.place r.target ∧ (filesAfter h arguments).at? place = some r.text) ∨
                  place = Path.place r.temporary ∧ (filesAfter h arguments).at? place = none)) := by
  rw [exitCode, filesAfter, run?]
  cases Command.ofArguments arguments with
  | error stop =>
    cases stop with
    | misuse => exact .inl ⟨Nat.succ_ne_zero 1, rfl⟩
    | help => exact .inr ⟨rfl, .inl ⟨rfl, rfl⟩⟩
  | ok c =>
    simp only [Option.elim_some]
    rcases c.allOrNothing.outcome (h := h) with ⟨failed, _⟩ | ⟨succeeded, allowed⟩
    · exact .inl ⟨failed, files_of_failure failed⟩
    · refine .inr ⟨succeeded, .inr ⟨c, rfl, fun place => ?_⟩⟩
      exact (Files.at?_foldl_replace h.files (c.run h).effects place).imp_right
        fun ⟨r, inside, changed⟩ => ⟨r, allowed r inside, changed⟩

end PrinterWiring.CommandLine
