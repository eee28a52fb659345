import NodePanel.Settings.Basic

/-!
Settings of a caller who may give a path as it is. A path needs no reading where one is asked for,
also one that would be blank as a text, and it is no value for any other setting.
-/
namespace NodePanel

inductive Given where
  | data (value : Json)
  | path (path : Path)

/-- What is given, as data. No setting but a path can be read from null. -/
def Given.toData : Given → Json
  | data value => value
  | path _ => .null

namespace Settings

def givenPath? (given : Keyed Given) : Option Path :=
  match Keyed.get? (foldKeys given) "rule_list_path" with
  | some (.path path) => some path
  | _ => none

/-- The settings as `load` gives them, with the path that the caller gives. -/
def loadGiven [Machine] (files : Tree) (environment : Environment) (paths : List Text)
    (given : Keyed Given) : Except SettingsError Settings := do
  let settings ← load files environment paths (given.map fun entry => (entry.1, entry.2.toData))
  pure { settings with ruleListPath := (givenPath? given).or settings.ruleListPath }

end Settings

end NodePanel
