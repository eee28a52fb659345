import NodePanel.Files.Tree
import NodePanel.Log
import NodePanel.Record.Rule

/-!
Detection rules from a file of patterns, one on a line. Lines that hold nothing but blanks are left
out, and the others are kept as they are. A file that cannot be read gives no rules and a warning;
only a path that cannot belong to any file is an error.
-/
namespace NodePanel

def Rule.isReturn (c : CodePoint) : Bool := c = '\r'

/-- The rules of a text. Carriage returns at the end of a line belong to its break. -/
def Rule.ofLines (t : Text) : List Rule :=
  ((Text.splitOn '\n' t).filter (!Text.isBlank ·)).map fun line =>
    ⟨Rule.localId, Text.dropEndWhile Rule.isReturn line⟩

structure RuleWarning where
  path : Path
  reason : Text
deriving DecidableEq

structure RuleLoad where
  rules : List Rule
  warning : Option RuleWarning
deriving DecidableEq

namespace RuleLoad

def none : RuleLoad := ⟨[], Option.none⟩

def degraded (load : RuleLoad) : Bool := load.warning.isSome

def loadedMessage (count : Nat) (path : Path) : Text :=
  Text.ofString "Loaded " ++ Text.ofNat count ++ Text.ofString " local rules from " ++ path.toText

def unreadableMessage (warning : RuleWarning) : Text :=
  Text.ofString "Error when reading local rule list " ++ warning.path.toText ++ Text.ofString ": "
    ++ warning.reason

def loaded (path : Path) (t : Text) : RuleLoad × List LogRecord :=
  let rules := Rule.ofLines t
  (⟨rules, Option.none⟩, [⟨.debug, .rules, loadedMessage rules.length path⟩])

def unreadable (path : Path) (reason : Text) : RuleLoad × List LogRecord :=
  let warning : RuleWarning := ⟨path, reason⟩
  (⟨[], some warning⟩, [⟨.warning, .rules, unreadableMessage warning⟩])

/-- Load the rules of the file at `path`; a blank path stands for no file. -/
def ofPath (files : Tree) (path : Text) : Except FileError (RuleLoad × List LogRecord) :=
  if Text.isBlank path then .ok (none, [])
  else
    let p := Path.ofText path
    match files.readText p with
    | .ok t => .ok (loaded p t)
    | .error e =>
      match e with
      | .system _ _ | .content _ => .ok (unreadable p e.message)
      | _ => .error e

def ofOption (files : Tree) (path : Option Text) : Except FileError (RuleLoad × List LogRecord) :=
  match path with
  | Option.none => .ok (none, [])
  | some path => ofPath files path

end RuleLoad

end NodePanel
