import NodePanel.Json.Strict
import NodePanel.Keyed
import NodePanel.Record.Coercion

/-!
What goes to the panel and what comes back, without any regard to how it travels.
-/
namespace NodePanel

inductive Method where
  | get
  | post
deriving DecidableEq

def Method.name : Method → Text
  | get => "GET"
  | post => "POST"

structure Request where
  method : Method
  path : Text
  query : List (Text × Text)
  /-- `null` stands for a request without a body. -/
  body : Json

structure Response where
  statusCode : Int
  body : Octets
  url : Text
deriving DecidableEq

structure SessionInfo where
  apiHost : Text
  nodeId : Int
  key : Text
  nodeType : Text
deriving DecidableEq

open Coercion Checked

def Method.read (v : Json) : Except FaultKind Method := do
  let name ← readText v
  let name ← oneOf [Method.get.name, Method.post.name] name
  pure (if name = Method.get.name then .get else .post)

namespace Request

/-- An object of texts. Its keys may hold surrogates, which the place of a fault has no room for. -/
def readQuery : Json → Checked (List (Text × Text))
  | .obj fields => read fields
  | _ => faulty [⟨[], .dictType⟩]
where
  read : List (Text × Json) → Checked (List (Text × Text))
    | [] => ok []
    | (key, v) :: fields =>
      (fun t rest => (key, t) :: rest)
        <$> (ofExcept (readText v)).under (Utf8.replaceSurrogates key)
        <*> read fields

def ofJson (v : Json) : Checked Request :=
  record v fun o => mk
    <$> required o ["method"] Method.read
    <*> required o ["path"] (fun v => readText v >>= nonempty)
    <*> field o ["query"] (ok []) readQuery
    <*> optional o ["body"] .null .ok

/-- The query with keys that have octets; of two keys that become one, the later value counts. -/
def queryFields (r : Request) : Json.Fields :=
  Keyed.collect (r.query.map fun (key, t) => (Utf8.replaceSurrogates key, .str t))

/-- The body comes from outside as it is, so it is put into strict form. -/
def toJson (r : Request) : Except Json.StrictFault Json := do
  let body ← r.body.strict
  pure (.obj [
    ("method", .str r.method.name),
    ("path", .str r.path),
    ("query", .obj r.queryFields),
    ("body", body)])

end Request

namespace Response

def ofJson (v : Json) : Checked Response :=
  record v fun o => mk
    <$> required o ["status_code"] readInt
    <*> optional o ["body"] [] readOctets
    <*> optional o ["url"] [] readText

def toJson (r : Response) : Json := .obj [
  ("status_code", .int r.statusCode),
  ("body", .str (Utf8.decodeLossy r.body)),
  ("url", .str r.url)]

end Response

namespace SessionInfo

def ofJson (v : Json) : Checked SessionInfo :=
  record v fun o => mk
    <$> required o ["api_host"] readText
    <*> required o ["node_id"] readInt
    <*> required o ["key"] readText
    <*> required o ["node_type"] readText

def toJson (i : SessionInfo) : Json := .obj [
  ("api_host", .str i.apiHost),
  ("node_id", .int i.nodeId),
  ("key", .str i.key),
  ("node_type", .str i.nodeType)]

end SessionInfo

end NodePanel
