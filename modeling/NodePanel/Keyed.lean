import NodePanel.Text.Basic

/-!
Values under keys, in the order in which the keys were first given a value.
-/
namespace NodePanel

abbrev Keyed (α : Type) := List (Text × α)

namespace Keyed

def get? (entries : Keyed α) (key : Text) : Option α := entries.lookup key

/-- Give `key` a value, in its old place if it has one. -/
def put (entries : Keyed α) (key : Text) (value : α) : Keyed α :=
  if entries.any (·.1 == key) then
    entries.map fun entry => if entry.1 == key then (key, value) else entry
  else entries ++ [(key, value)]

def putAll (entries others : Keyed α) : Keyed α :=
  others.foldl (fun entries entry => entries.put entry.1 entry.2) entries

def collect (entries : List (Text × α)) : Keyed α := putAll [] entries

def sorted (entries : Keyed α) : Keyed α := entries.mergeSort fun a b => Text.le a.1 b.1

end Keyed

end NodePanel
