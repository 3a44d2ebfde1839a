import RestContract.Text.Blank
import RestContract.Text.Quoted
import RestContract.Text.Similar

/-!
# The grammar of command lines

A command has switches and operands. A switch has one-letter and long names; it is turned
on or off, or takes a text, which stands in the same argument or in the next one. Every
command has a switch that asks for help. Two dashes end the switches; a command that
hands its operands on ends them at its first operand as well.
-/

namespace RestContract.CommandLine

/-- What a switch is about. -/
inductive Field where
  /-- The page of help. -/
  | help
  /-- The level of logging. -/
  | verbose
  /-- Whether parameters are listed. -/
  | listing
  /-- The value of a parameter. -/
  | parameter
  /-- The body of a request. -/
  | body
  /-- The base address of a request. -/
  | baseUrl
  deriving DecidableEq, Repr

/-- A switch of a command. -/
structure Switch where
  /-- What it is about. -/
  field : Field
  /-- Its one-letter name, if it has one. -/
  short : Option Char
  /-- Its long name. -/
  long : String
  /-- The long name that turns it off, if there is one. -/
  off : Option String
  /-- Whether it takes a text. -/
  takesText : Bool
  /-- What the page of help says about it. -/
  about : String

/-- The grammar of a command. -/
structure Grammar where
  /-- The words that call the command. -/
  title : String
  /-- What the page of help says about it. -/
  about : String
  /-- The names of its operands. -/
  operands : List String
  /-- Its switches, all but the one for help. -/
  ownSwitches : List Switch
  /-- Whether its operands are handed on to another command. -/
  handsOn : Bool

/-- What a switch was given. -/
inductive Setting where
  /-- It was turned on or off. -/
  | turned (on : Bool)
  /-- It was given a text. -/
  | text (s : String)
  deriving DecidableEq, Repr

/-- Why the arguments of a command are refused. -/
inductive UsageFault where
  /-- There is no switch of that name. -/
  | unknownSwitch (name : String) (similar : List String)
  /-- A switch lacks its text. -/
  | missingText (name : String)
  /-- A switch was given a text that it does not take. -/
  | needlessText (name : String)
  /-- An operand is missing. -/
  | missingOperand (name : String)
  /-- There are more operands than the command has. -/
  | extraOperands (extra : List String)
  /-- Nothing stands at the path that an operand names. -/
  | nothingThere (operand path : String)
  /-- No command was named. -/
  | missingCommand
  /-- There is no command of that name. -/
  | unknownCommand (name : String) (similar : List String)
  /-- A switch was given a text that stands for no value. -/
  | badText (switch reason : String)
  deriving DecidableEq, Repr

/-- Whether a fault is about the text of a switch. -/
def UsageFault.isPlain : UsageFault → Bool
  | .missingText _ => true
  | .needlessText _ => true
  | _ => false

/-- What may have been meant, in words. -/
def suggestion : List String → String
  | [] => ""
  | [s] => " Did you mean " ++ Text.quoted s ++ "?"
  | ss => " (Did you mean one of: " ++ ", ".intercalate (ss.map Text.quoted) ++ "?)"

/-- What is wrong with the arguments, in words. -/
def UsageFault.message : UsageFault → String
  | .unknownSwitch name similar =>
    "No such option " ++ Text.quoted name ++ "." ++ suggestion similar
  | .missingText name => "Option " ++ Text.quoted name ++ " requires an argument."
  | .needlessText name => "Option " ++ Text.quoted name ++ " does not take a value."
  | .missingOperand name => "Missing argument '" ++ name ++ "'."
  | .extraOperands extra =>
    "Got unexpected extra argument" ++ (if extra.length = 1 then "" else "s") ++ " (" ++
      " ".intercalate extra ++ ")"
  | .nothingThere operand path =>
    "Invalid value for '" ++ operand ++ "': Path " ++ Text.quoted path ++ " does not exist."
  | .missingCommand => "Missing command."
  | .unknownCommand name similar =>
    "No such command " ++ Text.quoted name ++ "." ++ suggestion similar
  | .badText switch reason => "Invalid value for " ++ switch ++ ": " ++ reason

/-- The arguments of a command, taken apart. -/
structure Arguments where
  /-- What the switches were given, in order. -/
  settings : List (Field × Setting)
  /-- The operands in order. -/
  operands : List String

namespace Arguments

/-- Arguments with settings before the others. -/
def after (settings : List (Field × Setting)) (a : Arguments) : Arguments :=
  { a with settings := settings ++ a.settings }

/-- Whether help is asked for. -/
def asksHelp (a : Arguments) : Bool := a.settings.any (·.1 = .help)

/-- All texts given to a field. -/
def textsOf (field : Field) (a : Arguments) : List String :=
  a.settings.filterMap fun s =>
    match s with
    | (f, .text t) => if f = field then some t else none
    | _ => none

/-- The last text given to a field. -/
def text? (field : Field) (a : Arguments) : Option String := (a.textsOf field).getLast?

/-- How a field was turned last, or how it usually stands. -/
def isOn (field : Field) (usual : Bool) (a : Arguments) : Bool :=
  ((a.settings.filterMap fun s =>
    match s with
    | (f, .turned on) => if f = field then some on else none
    | _ => none).getLast?).getD usual

end Arguments

namespace Grammar

/-- The switch for help. -/
def helpSwitch : Switch := ⟨.help, none, "--help", none, false, "Show this message and exit."⟩

/-- All switches of a command. -/
def switches (g : Grammar) : List Switch := g.ownSwitches ++ [helpSwitch]

/-- The long names of a command, each with its switch and whether it turns that on. -/
def longNames (g : Grammar) : List (String × Switch × Bool) :=
  g.switches.flatMap fun s => (s.long, s, true) :: (s.off.map fun name => (name, s, false)).toList

/-- What an argument with switches gives, and the switch whose text is still to come. -/
abbrev Reading := List (Field × Setting) × Option (Field × String)

/-- Reads a row of one-letter switches. -/
def readShort (g : Grammar) : List Char → Except UsageFault Reading
  | [] => .ok ([], none)
  | c :: rest =>
    let name := String.ofList ['-', c]
    match g.switches.find? fun s => s.short = some c with
    | none => .error (.unknownSwitch name [])
    | some s =>
      if s.takesText then
        if rest.isEmpty then .ok ([], some (s.field, name))
        else .ok ([(s.field, .text (String.ofList rest))], none)
      else (g.readShort rest).map fun r => ((s.field, .turned true) :: r.1, r.2)

/-- Reads an argument with switches. -/
def readSwitch (g : Grammar) (arg : String) : Except UsageFault Reading :=
  let (name, text) := Text.cut '=' arg.toList
  let name := String.ofList name
  match g.longNames.lookup name, text with
  | some (s, on), none =>
    if s.takesText then .ok ([], some (s.field, name)) else .ok ([(s.field, .turned on)], none)
  | some (s, _), some text =>
    if s.takesText then .ok ([(s.field, .text (String.ofList text))], none)
    else .error (.needlessText name)
  | none, _ =>
    if arg.startsWith "--" then
      .error (.unknownSwitch name (Text.closeTo name (g.longNames.map (·.1))))
    else g.readShort (arg.toList.drop 1)

/-- Whether an argument holds switches: a dash with something behind it. -/
def isSwitch (arg : String) : Bool := arg.startsWith "-" && arg ≠ "-"

/-- Takes the arguments of a command apart. -/
def read (g : Grammar) : List String → Except UsageFault Arguments
  | [] => .ok ⟨[], []⟩
  | arg :: rest =>
    if arg = "--" then .ok ⟨[], rest⟩
    else if isSwitch arg then
      match g.readSwitch arg with
      | .error f => .error f
      | .ok (settings, none) => (g.read rest).map (·.after settings)
      | .ok (settings, some (field, name)) =>
        match rest with
        | [] => .error (.missingText name)
        | text :: rest => (g.read rest).map (·.after (settings ++ [(field, .text text)]))
    else if g.handsOn then .ok ⟨[], arg :: rest⟩
    else (g.read rest).map fun a => { a with operands := arg :: a.operands }

end Grammar

end RestContract.CommandLine
