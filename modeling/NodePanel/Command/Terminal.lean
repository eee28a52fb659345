import NodePanel.Console.Output
import NodePanel.Console.View
import NodePanel.Session.Basic

/-!
What a command works with, and what it leaves behind. A command ends with a code or with an error
that it has no words for.
-/
namespace NodePanel

structure Terminal where
  console : Console
  platform : Text
  environment : Environment
  /-- The files in which settings are looked for, the last one first. -/
  settingsFiles : List Text
  /-- The lines that will be typed. -/
  typed : List Text
  files : Tree
  channel : Channel
  printed : List Printed

inductive CommandError where
  | settings (error : SettingsError)
  | session (error : SessionError)
  | escape (escape : Escape)
  | home (error : HomeError)
  | file (error : FileError)
  | console (error : ConsoleError)
deriving DecidableEq

inductive Ending where
  | exit (code : Nat)
  | failure (error : CommandError)
deriving DecidableEq

namespace Ending

def success : Ending := exit 0

def failed : Ending := exit 1

def misused : Ending := exit 2

end Ending

namespace Terminal

def stop (t : Terminal) (error : CommandError) : Terminal × Ending := (t, .failure error)

/-- Print some items one after the other and go on. The first that cannot be printed is the end. -/
def print (t : Terminal) : List Printed → (Terminal → Terminal × Ending) → Terminal × Ending
  | [], go => go t
  | shown :: items, go =>
    match t.console.fault? shown with
    | some error => t.stop (.console error)
    | none => { t with printed := t.printed ++ [shown] }.print items go

def log (t : Terminal) (records : List LogRecord) : Terminal :=
  { t with channel := t.channel.logAll records }

def loadSettings [Machine] (t : Terminal) : Except SettingsError Settings :=
  Settings.load t.files t.environment t.settingsFiles []

/-- The end of a command that leaves the terminal as it is. -/
def finish (ending : Ending) (t : Terminal) : Terminal × Ending := (t, ending)

end Terminal

end NodePanel
