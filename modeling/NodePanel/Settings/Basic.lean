import NodePanel.EnvFile.Interpolation
import NodePanel.Files.Tree
import NodePanel.Record.Node
import NodePanel.Settings.Location

/-!
The settings of a session. Each of them is taken from the first source that gives it a value: the
caller, the environment, the files from the last to the first; otherwise it has its default. In the
environment and in files the names of settings carry a mark, and nowhere does case matter.
-/
namespace NodePanel

structure Settings where
  apiHost : Text
  key : Text
  nodeId : Nat
  nodeType : Text
  timeoutSeconds : Binary64
  retryCount : Nat
  /-- Megabits in a second, for every user. -/
  speedLimit : Binary64
  deviceLimit : Nat
  ruleListPath : Option Path
  enableVless : Bool
  enableXtls : Bool
deriving DecidableEq

inductive SettingsError where
  | invalid (faults : List Fault)
  | file (error : FileError)
  | home (error : HomeError)
deriving DecidableEq

namespace Settings

def defaultHost : Text := "http://127.0.0.1:8000"

def defaultType : Text := "V2ray"

def defaultTimeout : Binary64 := Binary64.ofInt 5

def defaultRetries : Nat := 3

def retryLimit : Int := 10

def isSlash (c : CodePoint) : Bool := c = '/'

/-- A host without blanks around it and without slashes at its end. -/
def readHost (v : Json) : Except FaultKind Text := do
  let t ← Coercion.readText v >>= Coercion.nonempty
  pure (Text.dropEndWhile isSlash (Text.strip t))

def readTimeout (v : Json) : Except FaultKind Binary64 := do
  let x ← Coercion.readFloat v
  pure (if x.isPositive then x else defaultTimeout)

def readRetries (v : Json) : Except FaultKind Nat := do
  let n ← Coercion.readInt v >>= Coercion.atLeast 0 >>= Coercion.atMost retryLimit
  pure n.toNat

def readPath : Json → Except FaultKind (Option Path)
  | .null => .ok none
  | .str t => .ok (if Text.isBlank t then none else some (Path.ofText t))
  | _ => .error .pathType

open Coercion Checked

def ofFields (o : Json.Fields) : Checked Settings :=
  mk
    <$> optional o ["api_host"] defaultHost readHost
    <*> optional o ["key"] [] readText
    <*> optional o ["node_id"] 1 readNat
    <*> optional o ["node_type"] defaultType (fun v => readText v >>= nonempty)
    <*> optional o ["timeout_seconds"] defaultTimeout readTimeout
    <*> optional o ["retry_count"] defaultRetries readRetries
    <*> optional o ["speed_limit"] .zero (fun v => readFloat v >>= nonneg)
    <*> optional o ["device_limit"] 0 readNat
    <*> optional o ["rule_list_path"] none readPath
    <*> optional o ["enable_vless"] false readBool
    <*> optional o ["enable_xtls"] false readBool

def names : List Text := [
  "api_host", "key", "node_id", "node_type", "timeout_seconds", "retry_count", "speed_limit",
  "device_limit", "rule_list_path", "enable_vless", "enable_xtls"].map Text.ofString

def mark : Text := "sakura_"

def kelvin : Nat := 0x212A

/-- Lower case for all code points whose lower case is a letter from a to z. -/
def foldCase (t : Text) : Text :=
  t.map fun c => if c.val = kelvin then CodePoint.ofChar 'k' else c.asciiLower

def foldKeys (entries : List (Text × α)) : List (Text × α) :=
  entries.map fun (key, value) => (foldCase key, value)

/-- Entries under keys in lower case; of two that differ in case the later one counts. -/
def folded (entries : Keyed α) : Keyed α := Keyed.collect (foldKeys entries)

section

variable [Machine]

/-- The variables of the files at some paths, the later files over the earlier ones. A path that
leads to no file is passed over. -/
def fileVariables (files : Tree) (environment : Environment) :
    List Text → Keyed (Option Text) → Except SettingsError (Keyed (Option Text))
  | [], found => .ok found
  | path :: paths, found => do
    let p ← (Location.expandUser environment (Path.ofText path)).mapError .home
    if ← (files.isFile p).mapError .file then
      let t ← (files.readText p).mapError .file
      let more := folded (EnvFile.bindingsOfText environment t)
      fileVariables files environment paths (found.putAll more)
    else fileVariables files environment paths found

end

/-- The value of a setting in the first source that has one. -/
def valueOf? (given : Keyed Json) (environment : Environment) (found : Keyed (Option Text))
    (name : Text) : Option Json :=
  (given.get? name).or
    (((environment.get? (mark ++ name)).or (found.get? (mark ++ name)).join).map .str)

/-- The settings from what the caller gives, the environment, and the files at some paths. Of two
names that differ in case the caller means the first. -/
def load [Machine] (files : Tree) (environment : Environment) (paths : List Text)
    (given : Keyed Json) : Except SettingsError Settings := do
  let found ← fileVariables files environment paths []
  let given := foldKeys given
  let environment := folded environment
  let fields := names.filterMap fun name =>
    (valueOf? given environment found name).map (name, ·)
  (ofFields fields).toExcept.mapError .invalid

end Settings

end NodePanel
