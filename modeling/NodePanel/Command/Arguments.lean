import NodePanel.Text.Basic

/-!
Arguments of a command line, sorted into switches and operands. A switch is known by its name after
two dashes or, if it takes no value, also by a letter after one; several letters may share a dash.
Two dashes alone end the switches.
-/
namespace NodePanel

inductive UsageError where
  | noArguments
  | noCommand
  | unknownCommand (name : Text)
  | unknownSwitch (argument : Text)
  /-- A switch that takes a value is the last argument. -/
  | noValue (name : Text)
  /-- A value for a switch that takes none. -/
  | needlessValue (name : Text)
  | badValue (name value : Text)
  | noOperand
  | needlessOperand (operand : Text)
  | badOperand (operand : Text)
deriving DecidableEq

inductive Switch where
  | flag (name : Text) (letter : Option CodePoint)
  | valued (name : Text)
deriving DecidableEq

namespace Switch

def name : Switch → Text
  | flag name _ => name
  | valued name => name

def letter? : Switch → Option CodePoint
  | flag _ letter => letter
  | valued _ => none

def help : Switch := flag "--help" none

end Switch

structure Arguments where
  /-- The names of the switches, with their values, in the order of the line. -/
  switches : List (Text × Option Text)
  operands : List Text
deriving DecidableEq

namespace Arguments

def dash : CodePoint := '-'

def endMark : Text := "--"

def looksLikeSwitch : Text → Bool
  | c :: _ :: _ => c = dash
  | _ => false

/-- The name in an argument and the value that is attached to it. -/
def nameAndValue (argument : Text) : Text × Option Text :=
  match Text.cut? '=' argument with
  | none => (argument, none)
  | some (name, value) => (name, some value)

/-- The names of the switches of some letters, if they all have one. -/
def namesOfLetters? (known : List Switch) (letters : Text) : Option (List Text) :=
  letters.mapM fun letter => (known.find? (·.letter? == some letter)).map Switch.name

inductive Reading where
  | complete (switches : List (Text × Option Text))
  /-- The value of the switch is the next argument. -/
  | awaitsValue (name : Text)
deriving DecidableEq

def Reading.ofLetters (known : List Switch) (argument : Text) : Except UsageError Reading :=
  match namesOfLetters? known (argument.drop 1) with
  | some names => .ok (.complete (names.map (·, none)))
  | none => .error (.unknownSwitch argument)

def Reading.ofArgument (known : List Switch) (argument : Text) : Except UsageError Reading :=
  let (name, value) := nameAndValue argument
  match known.find? (·.name == name), value with
  | some (.flag _ _), none => .ok (.complete [(name, none)])
  | some (.flag _ _), some _ => .error (.needlessValue name)
  | some (.valued _), some value => .ok (.complete [(name, some value)])
  | some (.valued _), none => .ok (.awaitsValue name)
  | none, _ =>
    if Text.startsWith endMark argument then .error (.unknownSwitch argument)
    else Reading.ofLetters known argument

def addSwitches (switches : List (Text × Option Text)) (a : Arguments) : Arguments :=
  { a with switches := switches ++ a.switches }

def addOperand (operand : Text) (a : Arguments) : Arguments :=
  { a with operands := operand :: a.operands }

/-- Sort arguments. Unless `mixed`, the first operand makes all that follows an operand. -/
def ofList (known : List Switch) (mixed : Bool) : List Text → Except UsageError Arguments
  | [] => .ok ⟨[], []⟩
  | argument :: rest =>
    if argument = endMark then .ok ⟨[], rest⟩
    else if looksLikeSwitch argument then
      match Reading.ofArgument known argument with
      | .error error => .error error
      | .ok (.complete switches) => (ofList known mixed rest).map (addSwitches switches)
      | .ok (.awaitsValue name) =>
        match rest with
        | [] => .error (.noValue name)
        | value :: rest => (ofList known mixed rest).map (addSwitches [(name, some value)])
    else if mixed then (ofList known mixed rest).map (addOperand argument)
    else .ok ⟨[], argument :: rest⟩

def has (a : Arguments) (name : Text) : Bool := a.switches.any (·.1 == name)

def value? (a : Arguments) (name : Text) : Option Text :=
  (a.switches.reverse.lookup name).join

end Arguments

end NodePanel
