import NodePanel.Number.Numeral
import NodePanel.Number.Shortest

/-!
JSON values. A number written without a point and without an exponent is an integer of any size, any
other number is a floating-point number. An object keeps its fields in the order in which their keys
first appeared, and of two values for one key the later one.
-/
namespace NodePanel

inductive Json where
  | null
  | bool (b : Bool)
  | int (n : Int)
  | float (x : Binary64)
  | str (t : Text)
  | arr (items : List Json)
  | obj (fields : List (Text × Json))

namespace Json

instance : Inhabited Json := ⟨null⟩

abbrev Fields := List (Text × Json)

namespace Fields

def get? (fields : Fields) (key : Text) : Option Json := fields.lookup key

/-- Give `key` a value: in its old place if it has one, at the front otherwise. The reader keeps the
fields of an object that is still open in reverse order, so the front is the end. -/
def put (key : Text) (value : Json) (fields : Fields) : Fields :=
  if fields.any (·.1 == key) then
    fields.map fun field => if field.1 == key then (key, value) else field
  else (key, value) :: fields

end Fields

def text? : Json → Option Text
  | str t => some t
  | _ => none

def get? (v : Json) (key : Text) : Option Json :=
  match v with
  | obj fields => fields.lookup key
  | _ => none

mutual

/-- How many containers stand inside one another. -/
def depth : Json → Nat
  | arr items => depthOfItems items + 1
  | obj fields => depthOfFields fields + 1
  | _ => 0

def depthOfItems : List Json → Nat
  | [] => 0
  | item :: items => max item.depth (depthOfItems items)

def depthOfFields : List (Text × Json) → Nat
  | [] => 0
  | (_, value) :: fields => max value.depth (depthOfFields fields)

end

inductive NumberFault where
  | notFinite
  | digits
deriving DecidableEq

mutual

def numberFault? : Json → Option NumberFault
  | int n => if HasText n then none else some .digits
  | float x => if x.isFinite then none else some .notFinite
  | arr items => faultInItems? items
  | obj fields => faultInFields? fields
  | _ => none

def faultInItems? : List Json → Option NumberFault
  | [] => none
  | item :: items =>
    match item.numberFault? with
    | some fault => some fault
    | none => faultInItems? items

def faultInFields? : List (Text × Json) → Option NumberFault
  | [] => none
  | (_, value) :: fields =>
    match value.numberFault? with
    | some fault => some fault
    | none => faultInFields? fields

end

end Json

end NodePanel
