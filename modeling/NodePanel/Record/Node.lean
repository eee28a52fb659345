import NodePanel.Record.Coercion

/-!
What is known of a node: how it is configured, and what it reports about itself.
-/
namespace NodePanel

/-- The configuration of a node. Type, number and `enableVless` belong to the session, the rest
comes from the panel. -/
structure NodeInfo where
  nodeType : Text
  nodeId : Int
  port : Int
  alterId : Int
  transportProtocol : Text
  enableTls : Bool
  tlsType : Text
  path : Text
  host : Text
  serviceName : Text
  /-- The JSON text of the header block, if the panel sent one. -/
  header : Option Text
  /-- Octets in a second. -/
  speedLimit : Nat
  enableVless : Bool
deriving DecidableEq

/-- The load of a node, in percent, and how many seconds it has been up. -/
structure NodeStatus where
  cpu : Binary64
  mem : Binary64
  disk : Binary64
  uptime : Nat
deriving DecidableEq

open Coercion Checked

def Coercion.readNat (v : Json) : Except FaultKind Nat :=
  (readInt v >>= atLeast 0).map Int.toNat

def Coercion.readTextOrNull : Json → Except FaultKind (Option Text)
  | .null => .ok none
  | v => (readText v).map some

namespace NodeInfo

def ofJson (v : Json) : Checked NodeInfo :=
  record v fun o => mk
    <$> required o ["node_type"] readText
    <*> required o ["node_id"] readInt
    <*> optional o ["port"] 0 readInt
    <*> optional o ["alter_id"] 0 readInt
    <*> optional o ["transport_protocol"] [] readText
    <*> optional o ["enable_tls"] false readBool
    <*> optional o ["tls_type"] [] readText
    <*> optional o ["path"] [] readText
    <*> optional o ["host"] [] readText
    <*> optional o ["service_name"] [] readText
    <*> optional o ["header"] none readTextOrNull
    <*> optional o ["speed_limit"] 0 readNat
    <*> optional o ["enable_vless"] false readBool

def toFields (n : NodeInfo) : Json.Fields := [
  ("node_type", .str n.nodeType),
  ("node_id", .int n.nodeId),
  ("port", .int n.port),
  ("alter_id", .int n.alterId),
  ("transport_protocol", .str n.transportProtocol),
  ("enable_tls", .bool n.enableTls),
  ("tls_type", .str n.tlsType),
  ("path", .str n.path),
  ("host", .str n.host),
  ("service_name", .str n.serviceName),
  ("header", n.header.elim .null .str),
  ("speed_limit", .int n.speedLimit),
  ("enable_vless", .bool n.enableVless)]

def toJson (n : NodeInfo) : Json := .obj n.toFields

end NodeInfo

namespace NodeStatus

def ofJson (v : Json) : Checked NodeStatus :=
  record v fun o => mk
    <$> optional o ["CPU", "cpu"] .zero readFloat
    <*> optional o ["Mem", "mem"] .zero readFloat
    <*> optional o ["Disk", "disk"] .zero readFloat
    <*> optional o ["Uptime", "uptime"] 0 readNat

def toJson (s : NodeStatus) : Json := .obj [
  ("CPU", .float s.cpu),
  ("Mem", .float s.mem),
  ("Disk", .float s.disk),
  ("Uptime", .int s.uptime)]

end NodeStatus

end NodePanel
