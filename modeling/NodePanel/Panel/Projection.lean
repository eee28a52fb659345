import NodePanel.Json.Writer
import NodePanel.Machine
import NodePanel.Panel.Error
import NodePanel.Record.Rule
import NodePanel.Record.User

/-!
What the data of an answer say about the node, its users and its rules. Every field is read
leniently: one that is absent or of another type has the empty value of its type, and no field has
an influence on another. Limits of speed come from the session. They can be refused, and so can a
header of which no text can be made.
-/
namespace NodePanel

namespace Lenient

/-- An integer, also one written as a floating-point number; zero for anything else. -/
def int : Option Json → Int
  | some (.int n) => n
  | some (.float x) => x.toInt?.getD 0
  | _ => 0

def nat (v : Option Json) : Nat := (int v).toNat

def text : Option Json → Text
  | some (.str t) => t
  | _ => []

def bool : Option Json → Bool
  | some (.bool b) => b
  | _ => false

def list : Option Json → List Json
  | some (.arr items) => items
  | _ => []

def texts (v : Option Json) : List Text :=
  ((list v).mapM Json.text?).getD []

end Lenient

/-- Octets in a second for a number of megabits in a second; a negative one counts as zero. -/
def speedLimitBytes (mbps : Binary64) : Except IntegerError Nat :=
  (((mbps.mulNat 1000000).divNat 8).truncate).map Int.toNat

namespace NodeInfo

/-- The header block of a node in compact form, an explicit null included. -/
def headerText (datas : Json) : Option Text := (datas.get? "header").map (Json.write .compact)

def ofDatas (datas : Json) (nodeType : Text) (nodeId : Int) (enableVless : Bool) : NodeInfo :=
  { nodeType, nodeId, enableVless
    port := Lenient.int (datas.get? "port")
    alterId := Lenient.int (datas.get? "alter_id")
    transportProtocol := Lenient.text (datas.get? "transport_protocol")
    enableTls := Lenient.bool (datas.get? "enable_tls")
    tlsType := Lenient.text (datas.get? "tls_type")
    path := Lenient.text (datas.get? "path")
    host := Lenient.text (datas.get? "host")
    serviceName := Lenient.text (datas.get? "service_name")
    header := headerText datas
    speedLimit := Lenient.nat (datas.get? "speed_limit") }

/-- As `ofDatas`, unless the header nests too deep for its text to be made. -/
def read [Machine] (datas : Json) (nodeType : Text) (nodeId : Int) (enableVless : Bool) :
    Except Escape NodeInfo :=
  if (datas.get? "header").all (·.depth ≤ Machine.headerLimit) then
    .ok (ofDatas datas nodeType nodeId enableVless)
  else .error .nesting

end NodeInfo

namespace User

/-- One user of a list. The alter-ID stands beside the list and holds for every user in it. -/
def ofEntry (alterId : Int) (speedLimit : Nat) (deviceLimit : Int) (entry : Json) : User :=
  let uid := Lenient.int (entry.get? "port")
  { uid, alterId, speedLimit, deviceLimit
    email := Text.ofInt uid
    uuid := Lenient.text (entry.get? "pass") }

def listOfDatas (datas : Json) (mbps : Binary64) (deviceLimit : Int) :
    Except IntegerError (List User) := do
  let speedLimit ← speedLimitBytes mbps
  let alterId := Lenient.int (datas.get? "alter_id")
  pure ((Lenient.list (datas.get? "user_list")).map (ofEntry alterId speedLimit deviceLimit))

end User

namespace Rule

def ofPatterns (patterns : List Text) : List Rule :=
  patterns.mapIdx fun index pattern => ⟨index, pattern⟩

def listOfDatas (datas : Json) (localRules : List Rule) : List Rule :=
  localRules ++ ofPatterns (Lenient.texts (datas.get? "rules"))

end Rule

end NodePanel
