import NodePanel.Encoding.Fault
import NodePanel.Keyed

/-!
The headers of a request. Case does not matter in their names, yet each keeps the spelling it was
given in, and two spellings of one name are two headers whose values are read together.
-/
namespace NodePanel

abbrev Headers := Keyed Text

namespace Headers

def valuesOf (headers : Headers) (name : Text) : List Text :=
  (headers.filter fun entry => Text.asciiLower entry.1 == Text.asciiLower name).map (·.2)

def get? (headers : Headers) (name : Text) : Option Text :=
  match headers.valuesOf name with
  | [] => none
  | values => some (Text.join ", " values)

/-- All names in lower case and in order, each with its value. -/
def listing (headers : Headers) : Keyed Text :=
  (Keyed.collect (headers.map fun entry =>
    (Text.asciiLower entry.1, (headers.get? entry.1).getD []))).sorted

def isForeign (c : CodePoint) : Bool := !c.isAscii

def textFault? (t : Text) : Option EncodeFault :=
  EncodeFault.find? "ascii" "ordinal not in range(128)" isForeign isForeign t

def fault? (headers : Headers) : Option EncodeFault :=
  headers.findSome? fun entry => (textFault? entry.1).or (textFault? entry.2)

end Headers

end NodePanel
