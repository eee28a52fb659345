import NodePanel.Encoding.Utf8
import NodePanel.Json.Basic

/-!
The strict form of a JSON value, which any reader can be expected to take: a number that is not
finite becomes `null`, every key has octets, and not too many values stand inside one another.
-/
namespace NodePanel.Json

inductive StrictFault where
  | tooDeep
  | key (fault : EncodeFault)
deriving DecidableEq

def StrictFault.message : StrictFault → Text
  | tooDeep => "Maximum serialization depth exceeded"
  | key fault => fault.message

/-- How many values may stand inside one another, the innermost one included. -/
def strictDepth : Nat := 255

def strictKey (key : Text) : Except StrictFault Text :=
  match Utf8.encodeFault? key with
  | some fault => .error (.key fault)
  | none => .ok key

/-- The strict form of a value that takes no more than a number of levels. -/
def strictWithin : Nat → Json → Except StrictFault Json
  | 0, _ => .error .tooDeep
  | levels + 1, v =>
    match v with
    | float x => .ok (if x.isFinite then float x else null)
    | arr items => do
      let items ← items.mapM (strictWithin levels)
      pure (arr items)
    | obj fields => do
      let fields ← fields.mapM fun (key, value) => do
        let key ← strictKey key
        let value ← strictWithin levels value
        pure (key, value)
      pure (obj fields)
    | v => .ok v

def strict (v : Json) : Except StrictFault Json := strictWithin strictDepth v

end NodePanel.Json
