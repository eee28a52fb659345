import NodePanel.Console.Printed
import NodePanel.Record.Exchange
import NodePanel.Record.Rule
import NodePanel.Record.User
import NodePanel.Text.Masked

/-!
How the records of the panel look on the console.
-/
namespace NodePanel

def Table.columnsOf (names : List String) : List Text := names.map Text.ofString

namespace NodeInfo

def boolText : Bool → Text
  | true => "True"
  | false => "False"

def caption (nodeId : Int) (nodeType : Text) : Text :=
  Text.ofInt nodeId ++ Text.ofString " (" ++ nodeType ++ Text.ofString ")"

def table (n : NodeInfo) : Table :=
  { title := Text.ofString "Node " ++ caption n.nodeId n.nodeType
    columns := Table.columnsOf ["Field", "Value"]
    rows := [
      ["port", Text.ofInt n.port],
      ["alter_id", Text.ofInt n.alterId],
      ["transport_protocol", n.transportProtocol],
      ["enable_tls", boolText n.enableTls],
      ["tls_type", n.tlsType],
      ["path", n.path],
      ["host", n.host],
      ["service_name", n.serviceName],
      ["header", n.header.getD []],
      ["speed_limit", Text.ofNat n.speedLimit],
      ["enable_vless", boolText n.enableVless]] }

end NodeInfo

namespace User

def row (u : User) : List Text :=
  [Text.ofInt u.uid, u.uuid, Text.ofInt u.alterId, Text.ofNat u.speedLimit,
    Text.ofInt u.deviceLimit]

def table (users : List User) : Table :=
  { title := "Users"
    columns := Table.columnsOf ["UID", "UUID", "AlterID", "Speed (B/s)", "Devices"]
    rows := users.map row }

end User

namespace Rule

def sourceText (r : Rule) : Text := if r.id = localId then "local" else "panel"

def row (r : Rule) : List Text := [Text.ofInt r.id, r.sourceText, r.pattern]

def table (rules : List Rule) : Table :=
  { title := "Detect rules"
    columns := Table.columnsOf ["ID", "Source", "Pattern"]
    rows := rules.map row }

end Rule

def SessionInfo.panel (i : SessionInfo) : Printed :=
  .framed (some "Session") (Text.join "\n" [
    Text.ofString "API host: " ++ i.apiHost,
    Text.ofString "Node: " ++ NodeInfo.caption i.nodeId i.nodeType,
    Text.ofString "Key: " ++ Text.masked i.key])

def Printed.banner : Printed :=
  .framed none "sakura-panel\nNode info • Users • Rules • Telemetry"

end NodePanel
