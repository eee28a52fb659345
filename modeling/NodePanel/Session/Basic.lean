import NodePanel.Panel.Endpoint
import NodePanel.Panel.Envelope
import NodePanel.Panel.Projection
import NodePanel.Rules.Local
import NodePanel.Session.Transport

/-!
A session with the panel. Opening it loads the local rules once; after that nothing about it
changes but its transport. Every operation that asks or reports makes a request, sends it once, opens
the envelope of the answer, and reads the data, so its result depends on no other operation.
-/
namespace NodePanel

structure Session where
  settings : Settings
  load : RuleLoad
  transport : Transport

inductive SessionError where
  | wire (error : WireError)
  | file (error : FileError)
deriving DecidableEq

inductive Operation where
  | nodeInfo
  | userList
  | nodeRules
  | reportStatus (status : NodeStatus)
  | reportOnline (users : List OnlineUser)
  | reportTraffic (traffic : List Traffic)
  | reportIllegal (hits : List Hit)
deriving DecidableEq

inductive Reply where
  | node (info : NodeInfo)
  | users (users : List User)
  | rules (rules : List Rule)
  | accepted
deriving DecidableEq

namespace Operation

def endpoint : Operation → Endpoint
  | nodeInfo => .nodeInfo
  | userList => .userList
  | nodeRules => .nodeRule
  | reportStatus _ => .nodeStatus
  | reportOnline _ => .onlineUsers
  | reportTraffic _ => .userTraffic
  | reportIllegal _ => .illegal

def request (nodeId : Int) : Operation → Except Escape Request
  | nodeInfo => .ok Request.nodeInfo
  | userList => Request.userList nodeId
  | nodeRules => .ok Request.nodeRule
  | reportStatus status => Request.nodeStatus nodeId status
  | reportOnline users => Request.onlineUsers nodeId users
  | reportTraffic traffic => Request.userTraffic nodeId traffic
  | reportIllegal hits => Request.illegal nodeId hits

end Operation

namespace Session

def openOver (files : Tree) (settings : Settings) (transport : Transport) :
    Except SessionError (Session × List LogRecord) := do
  let (load, logs) ←
    (RuleLoad.ofOption files (settings.ruleListPath.map Path.toText)).mapError .file
  pure (⟨settings, load, transport⟩, logs)

def openOwned (files : Tree) (settings : Settings) :
    Except SessionError (Session × List LogRecord) := do
  let client ← (HttpClient.create settings []).mapError .wire
  openOver files settings (.owned client false false)

def localRules (s : Session) : List Rule := s.load.rules

def describe (s : Session) : SessionInfo :=
  { apiHost := s.settings.apiHost, nodeId := s.settings.nodeId, key := s.settings.key
    nodeType := s.settings.nodeType }

def setDebug (s : Session) (enabled : Bool) : Session :=
  { s with transport := s.transport.setDebug enabled }

def close (s : Session) : Session := { s with transport := s.transport.close }

def urlOf (s : Session) (path : Text) : Except SendError Response → Text
  | .ok response => if response.url.isEmpty then s.settings.apiHost ++ path else response.url
  | .error _ => s.settings.apiHost ++ path

def deliveryOf : Except SendError Response → Delivery
  | .ok response => Delivery.answered response
  | .error error => Delivery.failed error

variable [Machine]

def call (s : Session) (c : Channel) (r : Request) : Channel × Except CallError Json :=
  let (c, result) := s.transport.send c r
  (c, (deliveryOf result).datas r.path (s.urlOf r.path result))

def nodeInfoOf (s : Session) (datas : Json) : Except Escape NodeInfo :=
  NodeInfo.read datas s.settings.nodeType s.settings.nodeId s.settings.enableVless

def usersOf (s : Session) (datas : Json) : Except Escape (List User) :=
  (User.listOfDatas datas s.settings.speedLimit s.settings.deviceLimit).mapError .speedLimit

/-- What the data of an answer say about what an operation asked for. -/
def read (s : Session) (datas : Json) : Operation → Except Escape Reply
  | .nodeInfo => (s.nodeInfoOf datas).map .node
  | .userList => (s.usersOf datas).map .users
  | .nodeRules => .ok (.rules (Rule.listOfDatas datas s.localRules))
  | _ => .ok .accepted

def usersMessage (s : Session) (count : Nat) : Text :=
  Text.ofString "Panel returned " ++ Text.ofNat count ++ Text.ofString " users for node "
    ++ Text.ofInt s.settings.nodeId

def replyLogs (s : Session) : Reply → List LogRecord
  | .users users => [⟨.debug, .session, s.usersMessage users.length⟩]
  | _ => []

/-- The request of an operation is made before anything is sent. -/
def perform (s : Session) (c : Channel) (operation : Operation) :
    Channel × Except CallError Reply :=
  match operation.request s.settings.nodeId with
  | .error escape => (c, .error (.escape escape))
  | .ok r =>
    match s.call c r with
    | (c, .error error) => (c, .error error)
    | (c, .ok datas) =>
      match s.read datas operation with
      | .error escape => (c, .error (.escape escape))
      | .ok reply => (c.logAll (s.replyLogs reply), .ok reply)

def askNodeInfo (s : Session) (c : Channel) : Channel × Except CallError NodeInfo :=
  let (c, result) := s.call c Request.nodeInfo
  (c, result.bind fun datas => (s.nodeInfoOf datas).mapError .escape)

theorem perform_nodeInfo (s : Session) (c : Channel) :
    s.perform c .nodeInfo = ((s.askNodeInfo c).1, (s.askNodeInfo c).2.map Reply.node) := by
  unfold perform askNodeInfo Operation.request
  dsimp only
  rcases s.call c Request.nodeInfo with ⟨c', error | datas⟩
  · rfl
  · simp only [read, Except.bind]
    cases s.nodeInfoOf datas with
    | error escape => rfl
    | ok info =>
      show (c'.logAll [], Except.ok (Reply.node info)) = (c', Except.ok (Reply.node info))
      simp [Channel.logAll]

end Session

end NodePanel
