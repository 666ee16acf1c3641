import PrinterWiring.Text.Blank
import PrinterWiring.Text.Split

/-!
# Arguments

Arguments are options and operands in any order. An option is given as `--name value` or `--name=value`; one with a
letter also as `-l value`, `-lvalue` or `-l=value`, and flags may share a hyphen, as in `-abc`. No option is given
twice. What begins with a hyphen is never a value by itself, a lone hyphen apart; behind `--` everything is an operand.

Arguments are read from left to right. The first that is wrong makes all of them wrong, unless help was asked for before
it; what is missing, or does not go together, is only seen at the end.
-/

namespace PrinterWiring.CommandLine

/-- Why arguments are not those of a command. -/
inductive Stop where
  /-- They are wrong, whatever is wrong with them. -/
  | misuse
  /-- They ask for help, or for the version. -/
  | help
deriving DecidableEq

/-- What an option is for. -/
inductive OptionUse where
  /-- It is given or not. -/
  | flag
  /-- It has a value that has to be accepted. -/
  | value (accepts : String → Bool)
  /-- It asks for help. Nothing behind it is read. -/
  | help

/-- An option that a command knows. -/
structure OptionForm where
  name : String
  letter : Option Char
  use : OptionUse

/-- What accepts the texts that can be read. -/
def readable {α : Type} (read? : String → Option α) (s : String) : Bool := (read? s).isSome

/-- An option without a value. -/
def flag (name : String) : OptionForm := ⟨name, none, .flag⟩

/-- An option with a value. -/
def valued {α : Type} (name : String) (read? : String → Option α) : OptionForm := ⟨name, none, .value (readable read?)⟩

/-- An option with a value and a letter. -/
def lettered {α : Type} (name : String) (letter : Char) (read? : String → Option α) : OptionForm :=
  ⟨name, some letter, .value (readable read?)⟩

/-- The options that are known everywhere. To be told more changes nothing else. -/
def commonForms : List OptionForm := [⟨"verbose", some 'v', .flag⟩, ⟨"help", some 'h', .help⟩]

/-- What one argument is by its look. -/
inductive Argument where
  | named (name : String) (attached : Option String)
  | letters (cs : List Char)
  /-- Everything behind this one is an operand. -/
  | endOfOptions
  | operand (s : String)
deriving DecidableEq

/-- Looks at one argument. -/
def Argument.ofText (s : String) : Argument :=
  match s.toList with
  | ['-', '-'] => .endOfOptions
  | '-' :: '-' :: cs =>
    match Text.cutFirst? '=' cs with
    | some (name, v) => .named (.ofList name) (some (.ofList v))
    | none => .named (.ofList cs) none
  | '-' :: c :: cs => .letters (c :: cs)
  | _ => .operand s

/-- Arguments that were sorted. A flag has an empty value. -/
structure Arguments where
  options : List (String × String)
  operands : List String
deriving DecidableEq

namespace Arguments

/-- No arguments. -/
def none : Arguments := ⟨[], []⟩

/-- Whether an option was given. -/
def has (a : Arguments) (name : String) : Bool := (a.options.lookup name).isSome

/-- The value of an option that need not be given. -/
def optional {α : Type} (a : Arguments) (name : String) (read? : String → Option α) : Except Stop (Option α) :=
  match a.options.lookup name with
  | some v =>
    match read? v with
    | some x => .ok (some x)
    | .none => .error .misuse
  | .none => .ok .none

/-- Adds an option, if it was not given before. -/
def addOption (a : Arguments) (name v : String) : Except Stop Arguments :=
  if a.has name then .error .misuse else .ok { a with options := (name, v) :: a.options }

/-- Adds an operand, if there is one more to come and it accepts this one. -/
def addOperand (accept : List (String → Bool)) (a : Arguments) (s : String) : Except Stop Arguments :=
  match accept[a.operands.length]? with
  | some accepts => if accepts s then .ok { a with operands := a.operands ++ [s] } else .error .misuse
  | .none => .error .misuse

end Arguments

/-- How far arguments were read. -/
structure Reading where
  given : Arguments
  /-- The option whose value is the next argument. -/
  waiting : Option OptionForm

namespace Reading

/-- Nothing was read yet. -/
def begun : Reading := ⟨.none, none⟩

/-- Reads an option, with the value that is attached to it. -/
def takeOption (r : Reading) (form : OptionForm) (attached : Option String) : Except Stop Reading :=
  match form.use, attached with
  | .flag, none => do return ⟨← r.given.addOption form.name "", none⟩
  | .value _, none => .ok ⟨r.given, some form⟩
  | .value accepts, some v =>
    if accepts v then do return ⟨← r.given.addOption form.name v, none⟩ else .error .misuse
  | .help, none => .error .help
  | _, some _ => .error .misuse

/-- Reads letters behind a hyphen. Behind that of an option with a value, the rest is the value. -/
def takeLetters (forms : List OptionForm) (r : Reading) : List Char → Except Stop Reading
  | [] => .ok r
  | c :: cs =>
    match forms.find? (·.letter = some c) with
    | none => .error .misuse
    | some form =>
      match form.use, cs with
      | .value _, '=' :: v => r.takeOption form (some (.ofList v))
      | .value _, v@(_ :: _) => r.takeOption form (some (.ofList v))
      | _, _ => do takeLetters forms (← r.takeOption form none) cs

/-- Reads the value that an option waits for, or an option. -/
def take (forms : List OptionForm) (r : Reading) (a : Argument) : Except Stop Reading :=
  match r.waiting, a with
  | some form, .operand v => takeOption ⟨r.given, none⟩ form (some v)
  | none, .named name attached =>
    match forms.find? (·.name = name) with
    | some form => r.takeOption form attached
    | none => .error .misuse
  | none, .letters cs => r.takeLetters forms cs
  | _, _ => .error .misuse

/-- What was read, if no option waits for its value. -/
def finish (r : Reading) : Except Stop Arguments := if r.waiting.isSome then .error .misuse else .ok r.given

end Reading

/-- Reads options and operands. -/
def gather (forms : List OptionForm) (accept : List (String → Bool)) (r : Reading) :
    List String → Except Stop Arguments
  | [] => r.finish
  | s :: ss =>
    match r.waiting, Argument.ofText s with
    | none, .endOfOptions => ss.foldlM (Arguments.addOperand accept) r.given
    | none, .operand v => do gather forms accept ⟨← r.given.addOperand accept v, none⟩ ss
    | _, a => do gather forms accept (← r.take forms a) ss

/-- Reads options up to the first operand, which is left with all behind it. -/
def gatherLeading (forms : List OptionForm) (r : Reading) : List String → Except Stop (Arguments × List String)
  | [] => do return (← r.finish, [])
  | s :: ss =>
    match r.waiting, Argument.ofText s with
    | none, .operand _ => .ok (r.given, s :: ss)
    | _, a => do gatherLeading forms (← r.take forms a) ss

/-- Reads the arguments of a command. -/
def readArguments (forms : List OptionForm) (accept : List (String → Bool)) (ss : List String) :
    Except Stop Arguments := gather (forms ++ commonForms) accept .begun ss

/-- Reads the options in front of a subcommand. Its name and its arguments are left. -/
def readLeading (forms : List OptionForm) (ss : List String) : Except Stop (Arguments × List String) :=
  gatherLeading (forms ++ commonForms) .begun ss

end PrinterWiring.CommandLine
