import NodePanel.Files.Path
import NodePanel.Machine
import NodePanel.Text.Blank

/-!
Where a user's files are. The home directory comes from the environment or, without `HOME` there,
from the accounts of the machine. Every platform has its own place below the home directory for
configuration.
-/
namespace NodePanel

abbrev Environment := Keyed Text

inductive HomeError where
  /-- There is no such account, or its directory is given in terms of a home directory again. -/
  | unknown
  | zeroInName
  | encoding (fault : EncodeFault)
deriving DecidableEq

def HomeError.message : HomeError → Text
  | unknown => "Could not determine home directory."
  | zeroInName => "embedded null byte"
  | encoding fault => fault.message

namespace Location

def tilde : CodePoint := '~'

def directoryText (directory : Text) : Text :=
  match Text.dropEndWhile (· = Path.separator) directory with
  | [] => [Path.separator]
  | directory => directory

variable [Machine]

def ownHome (environment : Environment) : Except HomeError Text :=
  match (environment.get? "HOME").or Machine.home? with
  | some home => .ok (directoryText home)
  | none => .error .unknown

def accountHome (name : Text) : Except HomeError Text :=
  match Path.nameFault? name with
  | some fault => .error (.encoding fault)
  | none =>
    if name.contains Path.zero then .error .zeroInName
    else
      match Machine.homes.get? name with
      | some home => .ok (directoryText home)
      | none => .error .unknown

/-- The text that a part with a tilde in front stands for. -/
def tildeText (environment : Environment) (part : Text) : Except HomeError Text :=
  if part = [tilde] then ownHome environment else accountHome (part.drop 1)

/-- Replace a tilde at the front of a path by the home directory it means. -/
def expandUser (environment : Environment) (p : Path) : Except HomeError Path :=
  match p.root, p.parts with
  | .relative, part :: parts =>
    if part.head? = some tilde then
      match tildeText environment part with
      | .error error => .error error
      | .ok home =>
        if home.head? = some tilde then .error .unknown
        else .ok ((Path.ofText home).join ⟨.relative, parts⟩)
    else .ok p
  | _, _ => .ok p

def home (environment : Environment) : Except HomeError Path :=
  expandUser environment ⟨.relative, [[tilde]]⟩

def folder : Text := "sakura-panel"

def below (p : Path) (parts : List String) : Path := p.join ⟨.relative, parts.map Text.ofString⟩

def configDirectory (platform : Text) (environment : Environment) : Except HomeError Path := do
  if Text.startsWith "win" platform then
    let home ← home environment
    let base := (environment.get? "APPDATA").elim home Path.ofText
    pure (base.join ⟨.relative, [folder]⟩)
  else if platform = Text.ofString "darwin" then
    let home ← home environment
    pure ((below home ["Library", "Application Support"]).join ⟨.relative, [folder]⟩)
  else
    match environment.get? "XDG_CONFIG_HOME" with
    | some (c :: rest) => pure ((Path.ofText (c :: rest)).join ⟨.relative, [folder]⟩)
    | _ =>
      let home ← home environment
      pure ((below home [".config"]).join ⟨.relative, [folder]⟩)

def envFileName : Text := ".env"

def envFile (platform : Text) (environment : Environment) : Except HomeError Path := do
  let directory ← configDirectory platform environment
  pure (directory.join ⟨.relative, [envFileName]⟩)

end Location

end NodePanel
