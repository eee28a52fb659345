import NodePanel.Command.Arguments
import NodePanel.Command.TypedHit
import NodePanel.Log
import NodePanel.Record.Node

/-!
What a command line asks for. The switches in front of the name of a command are for all commands;
they take effect once that name is known, even if what follows it is wrong. Two of them are about
the shell, and like a call for help they need no command; help comes first.
-/
namespace NodePanel

inductive Command where
  | describe
  | nodeInfo
  | users
  | rules
  | reportStatus (status : NodeStatus)
  | reportIllegal (hits : List Hit)
  | checkup
  | setup
deriving DecidableEq

/-- The names of commands. Two commands are called by a second name after `doctor`. -/
inductive CommandName where
  | describe
  | nodeInfo
  | users
  | rules
  | reportStatus
  | reportIllegal
  | doctor
deriving DecidableEq

inductive DoctorName where
  | run
  | setup
deriving DecidableEq

def CommandName.all : List CommandName :=
  [describe, nodeInfo, users, rules, reportStatus, reportIllegal, doctor]

def CommandName.text : CommandName → Text
  | describe => "describe"
  | nodeInfo => "node-info"
  | users => "users"
  | rules => "rules"
  | reportStatus => "report-status"
  | reportIllegal => "report-illegal"
  | doctor => "doctor"

def CommandName.ofText? (t : Text) : Option CommandName := all.find? (·.text == t)

def DoctorName.all : List DoctorName := [run, setup]

def DoctorName.text : DoctorName → Text
  | run => "run"
  | setup => "setup"

def DoctorName.ofText? (t : Text) : Option DoctorName := all.find? (·.text == t)

inductive Purpose where
  | help
  /-- Show or install what completes command lines in the shell. -/
  | completion
  | run (command : Command)
deriving DecidableEq

structure Invocation where
  verbose : Bool
  debug : Bool
  purpose : Except UsageError Purpose

inductive Selection (α : Type) where
  /-- The switches ask for something that needs no command. -/
  | commandless (purpose : Purpose)
  | named (switches : Arguments) (name : α) (rest : List Text)

namespace Invocation

def verboseSwitch : Switch := .flag "--verbose" (some 'v')

def debugSwitch : Switch := .flag "--debug" none

def installSwitch : Switch := .flag "--install-completion" none

def showSwitch : Switch := .flag "--show-completion" none

def commandless? (a : Arguments) : Option Purpose :=
  if a.has Switch.help.name then some .help
  else if a.has installSwitch.name || a.has showSwitch.name then some .completion
  else none

/-- Take the name of a command off a line. A name that is not known may be a switch behind an end
mark, so it is read once more. -/
def select (known : List Switch) (ofText? : Text → Option α) (line : List Text) :
    Except UsageError (Selection α) := do
  let switches ← Arguments.ofList (.help :: known) false line
  match commandless? switches with
  | some purpose => pure (.commandless purpose)
  | none =>
    match switches.operands with
    | [] => .error (if line.isEmpty then .noArguments else .noCommand)
    | text :: rest =>
      match ofText? text with
      | some name => pure (.named switches name rest)
      | none =>
        let again ← Arguments.ofList (.help :: known) false (text :: rest)
        match commandless? again with
        | some purpose => pure (.commandless purpose)
        | none => .error (.unknownCommand text)

/-- Read what follows the name of a command, unless it asks for help. -/
def readRest (known : List Switch) (line : List Text)
    (read : Arguments → Except UsageError Command) : Except UsageError Purpose := do
  let arguments ← Arguments.ofList (.help :: known) true line
  match commandless? arguments with
  | some purpose => pure purpose
  | none =>
    let command ← read arguments
    pure (.run command)

def withoutOperands (command : Arguments → Except UsageError Command) (a : Arguments) :
    Except UsageError Command :=
  match a.operands with
  | [] => command a
  | operand :: _ => .error (.needlessOperand operand)

/-- The number that a switch gives, which is not below zero. It is read as one in data from outside
is, so `7.00` is an integer, and what is no number of floating point is not above zero either. -/
def amountOf (read : Json → Except FaultKind α) (isNonneg : α → Bool) (default : α) (a : Arguments)
    (name : Text) : Except UsageError α :=
  match a.value? name with
  | none => .ok default
  | some value =>
    match read (.str value) with
    | .ok amount => if isNonneg amount then .ok amount else .error (.badValue name value)
    | .error _ => .error (.badValue name value)

def percentOf : Arguments → Text → Except UsageError Binary64 :=
  amountOf Coercion.readFloat Binary64.isNonneg .zero

def secondsOf (a : Arguments) (name : Text) : Except UsageError Nat :=
  (amountOf Coercion.readInt (0 ≤ ·) 0 a name).map Int.toNat

def cpuName : Text := "--cpu"

def memName : Text := "--mem"

def diskName : Text := "--disk"

def uptimeName : Text := "--uptime"

def statusSwitches : List Switch :=
  [.valued cpuName, .valued memName, .valued diskName, .valued uptimeName]

def readStatus (a : Arguments) : Except UsageError Command := do
  let cpu ← percentOf a cpuName
  let mem ← percentOf a memName
  let disk ← percentOf a diskName
  let uptime ← secondsOf a uptimeName
  pure (.reportStatus { cpu, mem, disk, uptime })

def readHit (operand : Text) : Except UsageError Hit :=
  (Hit.ofText operand).mapError fun _ => .badOperand operand

def readHits (a : Arguments) : Except UsageError Command := do
  if a.operands.isEmpty then .error .noOperand
  else
    let hits ← a.operands.mapM readHit
    pure (.reportIllegal hits)

def plainPurpose (command : Command) (line : List Text) : Except UsageError Purpose :=
  readRest [] line (withoutOperands fun _ => .ok command)

def doctorPurpose (line : List Text) : Except UsageError Purpose := do
  match ← select [] DoctorName.ofText? line with
  | .commandless purpose => pure purpose
  | .named _ .run rest => plainPurpose .checkup rest
  | .named _ .setup rest => plainPurpose .setup rest

def purposeOf (name : CommandName) (line : List Text) : Except UsageError Purpose :=
  match name with
  | .describe => plainPurpose .describe line
  | .nodeInfo => plainPurpose .nodeInfo line
  | .users => plainPurpose .users line
  | .rules => plainPurpose .rules line
  | .reportStatus => readRest statusSwitches line (withoutOperands readStatus)
  | .reportIllegal => readRest [] line readHits
  | .doctor => doctorPurpose line

/-- The switches that may stand in front of the name of a command. -/
def generalSwitches : List Switch := [verboseSwitch, debugSwitch, installSwitch, showSwitch]

def ofLine (line : List Text) : Invocation :=
  match select generalSwitches CommandName.ofText? line with
  | .error error => ⟨false, false, .error error⟩
  | .ok (.commandless purpose) => ⟨false, false, .ok purpose⟩
  | .ok (.named switches name rest) =>
    { verbose := switches.has verboseSwitch.name
      debug := switches.has debugSwitch.name
      purpose := purposeOf name rest }

def level (i : Invocation) : LogLevel := if i.verbose || i.debug then .debug else .warning

end Invocation

end NodePanel
