import PrinterWiring.CommandLine.Arguments
import PrinterWiring.CommandLine.Command

/-!
# Reading commands

How arguments make a command. Options may stand before and behind the name of a command, each where it is known; help
can be asked for everywhere, by its option or by its own command. What help says is left out.
-/

namespace PrinterWiring.CommandLine

/-- The session file of a user who names none. -/
def defaultSession : String := "klipconf.session"

/-- Reads something that has a name. -/
def named? {α : Type} (parse : String → Except NameError α) (s : String) : Option α := (parse s).toOption

/-- Reads a truth value. -/
def truth? (s : String) : Option Bool :=
  if s = "true" then some true else if s = "false" then some false else none

/-- The options for where boards come from. -/
def sourceForms : List OptionForm := [valued "config" Text.nonEmpty?, valued "catalog" Text.nonEmpty?]

/-- The options of commands on sessions. -/
def sessionForms : List OptionForm := lettered "session" 's' Text.nonEmpty? :: sourceForms

/-- What accepts an operand of any text. -/
def anyText (_ : String) : Bool := true

/-- What accepts the name of something. -/
def nameOf {α : Type} (parse : String → Except NameError α) : String → Bool := readable (named? parse)

/-- An operand that is the name of something. -/
def readName {α : Type} (parse : String → Except NameError α) (s : String) : Except Stop α :=
  (parse s).mapError fun _ => .misuse

namespace Arguments

/-- Where boards come from. -/
def sources (a : Arguments) : Except Stop Sources := do
  return ⟨← a.optional "config" Text.nonEmpty?, ← a.optional "catalog" Text.nonEmpty?⟩

/-- The session file. -/
def session (a : Arguments) : Except Stop SessionSource := do
  return ⟨(← a.optional "session" Text.nonEmpty?).getD defaultSession, ← a.sources⟩

/-- A change of the session file. -/
def change (a : Arguments) (change : SessionChange) : Except Stop Command := do
  return .changeSession change (← a.session)

end Arguments

/-! ## Help -/

/-- The subcommands of commands on boards. -/
def boardsSubcommands : List String := ["list", "show"]

/-- The subcommands of commands on session files. -/
def sessionSubcommands : List String := ["init", "show", "set", "unset"]

/-- The subcommands of commands on preferences. -/
def preferencesSubcommands : List String := ["show", "set"]

/-- The commands, each with its subcommands. -/
def commandNames : List (String × List String) :=
  [("boards", boardsSubcommands), ("functions", []), ("session", sessionSubcommands), ("select-board", []),
   ("assign", []), ("clear", []), ("clear-port", []), ("set-location", []), ("pin-options", []), ("validate", []),
   ("generate", []), ("config", preferencesSubcommands)]

/-- Asks for help on subcommands, on one of them or on help itself. -/
def helpAmong (subcommands : List String) : List String → Stop
  | [] => .help
  | [name] => if name = "help" || subcommands.contains name then .help else .misuse
  | _ => .misuse

/-- Asks for help on commands, or on one of them. -/
def helpOnCommands : List String → Stop
  | [] => .help
  | name :: topic =>
    match ("help", []) :: commandNames |>.lookup name with
    | some [] => if topic.isEmpty then .help else .misuse
    | some subcommands => helpAmong subcommands topic
    | none => .misuse

/-! ## Commands -/

/-- Reads a command on boards. -/
def boardsCommand (ss : List String) : Except Stop Command := do
  match (← readLeading [] ss).2 with
  | "list" :: ss =>
    let a ← readArguments (valued "role" (named? Role.parse) :: flag "json" :: sourceForms) [] ss
    return .listBoards (← a.optional "role" (named? Role.parse)) (a.has "json") (← a.sources)
  | "show" :: ss =>
    let a ← readArguments (valued "category" (named? Category.parse) :: flag "json" :: sourceForms) [anyText] ss
    let [board] := a.operands | .error .misuse
    return .showBoard board (← a.optional "category" (named? Category.parse)) (a.has "json") (← a.sources)
  | "help" :: topic => .error (helpAmong boardsSubcommands topic)
  | _ => .error .misuse

/-- Reads a command on session files. -/
def sessionCommand (ss : List String) : Except Stop Command := do
  match (← readLeading [] ss).2 with
  | "init" :: ss =>
    let a ← readArguments (valued "mainboard" some :: valued "toolboard" some :: flag "force" :: sessionForms) [] ss
    return .createSession (← a.optional "mainboard" some) (← a.optional "toolboard" some) (a.has "force") (← a.session)
  | "show" :: ss =>
    let a ← readArguments (flag "json" :: sessionForms) [] ss
    return .showSession (a.has "json") (← a.session)
  | "set" :: ss =>
    let a ← readArguments sessionForms [anyText, anyText] ss
    let [key, v] := a.operands | .error .misuse
    a.change (.set key v)
  | "unset" :: ss =>
    let a ← readArguments sessionForms [anyText] ss
    let [key] := a.operands | .error .misuse
    a.change (.unset key)
  | "help" :: topic => .error (helpAmong sessionSubcommands topic)
  | _ => .error .misuse

/-- Reads a command on preferences. Their file may be named before and behind the subcommand, where the name
behind it counts. -/
def preferencesCommand (ss : List String) : Except Stop Command := do
  let (leading, ss) ← readLeading [valued "config" Text.nonEmpty?] ss
  let outer ← leading.optional "config" Text.nonEmpty?
  match ss with
  | "show" :: ss =>
    let a ← readArguments [valued "config" Text.nonEmpty?, flag "json"] [] ss
    return .showPreferences (a.has "json") ((← a.optional "config" Text.nonEmpty?).or outer)
  | "set" :: ss =>
    let a ← readArguments [valued "config" Text.nonEmpty?] [anyText, anyText] ss
    let [key, v] := a.operands | .error .misuse
    return .setPreference key v ((← a.optional "config" Text.nonEmpty?).or outer)
  | "help" :: topic => .error (helpAmong preferencesSubcommands topic)
  | _ => .error .misuse

/-- Reads a change of a session other than of its settings. -/
def changeCommand (name : String) (ss : List String) : Except Stop Command := do
  match name with
  | "select-board" =>
    let a ← readArguments (flag "none" :: sessionForms) [nameOf Role.parse, anyText] ss
    match a.operands, a.has "none" with
    | [role], true => a.change (.selectBoard (← readName Role.parse role) none)
    | [role, board], false => a.change (.selectBoard (← readName Role.parse role) (some board))
    | _, _ => .error .misuse
  | "assign" =>
    let a ← readArguments (valued "board" (named? Role.parse) :: flag "secondary" :: sessionForms)
      [nameOf PrinterFunction.parse, anyText] ss
    let [function, port] := a.operands | .error .misuse
    let board ← a.optional "board" (named? Role.parse)
    let slot : Slot := if a.has "secondary" then .secondary else .primary
    a.change (.assign (← readName PrinterFunction.parse function) port (board.getD .mainboard) slot)
  | "clear" =>
    let a ← readArguments (valued "slot" (named? SlotChoice.parse) :: sessionForms) [nameOf PrinterFunction.parse] ss
    let [function] := a.operands | .error .misuse
    let which ← a.optional "slot" (named? SlotChoice.parse)
    a.change (.clear (← readName PrinterFunction.parse function) (which.getD .both))
  | "clear-port" =>
    let a ← readArguments sessionForms [nameOf Address.parse] ss
    let [port] := a.operands | .error .misuse
    a.change (.freePort (← readName Address.parse port))
  | "set-location" =>
    let a ← readArguments sessionForms [nameOf PrinterFunction.parse, nameOf Role.parse] ss
    let [function, role] := a.operands | .error .misuse
    a.change (.relocate (← readName PrinterFunction.parse function) (← readName Role.parse role))
  | "pin-options" =>
    let a ← readArguments (valued "invert" truth? :: valued "pullup" truth? :: sessionForms)
      [nameOf PrinterFunction.parse] ss
    let [function] := a.operands | .error .misuse
    a.change (.setOptions (← readName PrinterFunction.parse function) (← a.optional "invert" truth?)
      (← a.optional "pullup" truth?))
  | _ => .error .misuse

/-- Reads a command that renders. A mode is given by its name or by a flag of its own, and the files go to one place. -/
def generateCommand (ss : List String) : Except Stop Command := do
  let a ← readArguments (lettered "out-dir" 'o' Text.nonEmpty? :: valued "mode" (named? RenderMode.parse)
    :: flag "placeholder" :: flag "stdout" :: flag "json" :: sessionForms) [] ss
  let directory ← a.optional "out-dir" Text.nonEmpty?
  let mode ← match ← a.optional "mode" (named? RenderMode.parse), a.has "placeholder" with
    | some _, true => .error .misuse
    | none, true => .ok (some .placeholder)
    | mode, false => .ok mode
  let delivery ← match a.has "stdout", a.has "json" with
    | true, true => .error .misuse
    | true, false => .ok Delivery.print
    | false, true => .ok Delivery.printJson
    | false, false => .ok (Delivery.write directory)
  return .generate mode delivery (← a.session)

/-- The option that asks for the version. It is known in front of the command only. -/
def versionForm : OptionForm := ⟨"version", some 'V', .help⟩

/-- Reads a command. -/
def Command.ofArguments (ss : List String) : Except Stop Command := do
  match (← readLeading [versionForm] ss).2 with
  | "boards" :: ss => boardsCommand ss
  | "functions" :: ss =>
    let a ← readArguments [valued "category" (named? Category.parse), flag "json"] [] ss
    return .listFunctions (← a.optional "category" (named? Category.parse)) (a.has "json")
  | "session" :: ss => sessionCommand ss
  | "validate" :: ss =>
    let a ← readArguments (flag "json" :: flag "strict" :: sessionForms) [] ss
    return .validate (a.has "json") (a.has "strict") (← a.session)
  | "generate" :: ss => generateCommand ss
  | "config" :: ss => preferencesCommand ss
  | "help" :: topic => .error (helpOnCommands topic)
  | name :: ss => changeCommand name ss
  | [] => .error .misuse

end PrinterWiring.CommandLine
