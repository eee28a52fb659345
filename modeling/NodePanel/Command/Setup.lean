import NodePanel.Command.Terminal
import NodePanel.EnvFile.Lines

/-!
Asking for what a session needs and keeping the answers in the user's file of variables. Each answer
is one typed line, and an empty one stands for the default. A question without a default, or one
whose answer is no number as it should be, is asked again, until no more lines come. A typed number is
read as one in data from outside is.
-/
namespace NodePanel

structure Setup where
  apiHost : Text
  nodeId : Int
  nodeType : Text
  key : Text
deriving DecidableEq

namespace Setup

def askText (default : Text) : List Text → Option (Text × List Text)
  | [] => none
  | line :: rest => some (if line.isEmpty then default else line, rest)

def askSecret : List Text → Option (Text × List Text)
  | [] => none
  | line :: rest => if line.isEmpty then askSecret rest else some (line, rest)

def askInteger (default : Int) : List Text → Option (Int × List Text)
  | [] => none
  | line :: rest =>
    if line.isEmpty then some (default, rest)
    else
      match Coercion.readInt (.str line) with
      | .ok n => some (n, rest)
      | .error _ => askInteger default rest

def defaultNodeId : Int := 1

def ofLines? (lines : List Text) : Option Setup := do
  let (apiHost, lines) ← askText Settings.defaultHost lines
  let (nodeId, lines) ← askInteger defaultNodeId lines
  let (nodeType, lines) ← askText Settings.defaultType lines
  let (key, _) ← askSecret lines
  pure { apiHost := Text.strip apiHost, nodeId, nodeType := Text.strip nodeType
         key := Text.strip key }

def isComplete (s : Setup) : Bool := !s.apiHost.isEmpty && !s.key.isEmpty

def assignments (s : Setup) : Keyed (Option Text) := [
  ("SAKURA_API_HOST", some s.apiHost),
  ("SAKURA_NODE_ID", some (Text.ofInt s.nodeId)),
  ("SAKURA_NODE_TYPE", some s.nodeType),
  ("SAKURA_KEY", some s.key)]

def savedMarkup (path : Path) : Text :=
  Markup.styled "green" "Saved panel config to:" ++ CodePoint.ofChar ' ' :: path.toText

variable [Machine]

def save (s : Setup) (t : Terminal) : Terminal × Ending :=
  match Location.envFile t.platform t.environment with
  | .error error => t.stop (.home error)
  | .ok path =>
    match EnvFile.update t.files path s.assignments with
    | (files, .error error) => ({ t with files }).stop (.file error)
    | (files, .ok ()) =>
      { t with files }.print [.markup (savedMarkup path)] (Terminal.finish .success)

def run (t : Terminal) : Terminal × Ending :=
  match ofLines? t.typed with
  | none => (t, .failed)
  | some s => if s.isComplete then s.save t else (t, .misused)

end Setup

end NodePanel
