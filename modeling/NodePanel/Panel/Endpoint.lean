import NodePanel.Panel.Error
import NodePanel.Record.Exchange
import NodePanel.Record.Rule
import NodePanel.Record.User

/-!
The endpoints of the panel and the request for each. Whatever is about one node names it in the
query, so its number needs a text; reports carry their records as the body.
-/
namespace NodePanel

inductive Endpoint where
  | nodeInfo
  | userList
  | nodeRule
  | nodeStatus
  | onlineUsers
  | userTraffic
  | illegal
deriving DecidableEq

namespace Endpoint

def path : Endpoint → Text
  | nodeInfo => "/api/xray_r/node_info"
  | userList => "/api/xray_r/user_list"
  | nodeRule => "/api/xray_r/node_rule"
  | nodeStatus => "/api/xray_r/report_node_status"
  | onlineUsers => "/api/xray_r/report_online_user"
  | userTraffic => "/api/xray_r/report_user_traffic"
  | illegal => "/api/xray_r/report_illegal"

def nodeQuery (nodeId : Int) : Except Escape (List (Text × Text)) :=
  if HasText nodeId then .ok [("node_id", Text.ofInt nodeId)] else .error .digits

def read (e : Endpoint) (query : List (Text × Text)) : Request :=
  { method := .get, path := e.path, query, body := .null }

def report (e : Endpoint) (nodeId : Int) (body : Json) : Except Escape Request :=
  (nodeQuery nodeId).map fun query => { method := .post, path := e.path, query, body }

end Endpoint

namespace Request

def nodeInfo : Request := Endpoint.nodeInfo.read []

def userList (nodeId : Int) : Except Escape Request :=
  (Endpoint.nodeQuery nodeId).map Endpoint.userList.read

def nodeRule : Request := Endpoint.nodeRule.read []

def nodeStatus (nodeId : Int) (status : NodeStatus) : Except Escape Request :=
  Endpoint.nodeStatus.report nodeId status.toJson

def onlineUsers (nodeId : Int) (users : List OnlineUser) : Except Escape Request :=
  Endpoint.onlineUsers.report nodeId (.arr (users.map OnlineUser.toJson))

def userTraffic (nodeId : Int) (traffic : List Traffic) : Except Escape Request :=
  Endpoint.userTraffic.report nodeId (.arr (traffic.map Traffic.toJson))

def illegal (nodeId : Int) (hits : List Hit) : Except Escape Request :=
  Endpoint.illegal.report nodeId (.arr (hits.map fun hit => (HitReport.ofHit hit).toJson))

end Request

end NodePanel
