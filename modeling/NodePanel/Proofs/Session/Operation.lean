import NodePanel.Proofs.Panel.Envelope
import NodePanel.Session.Basic

/-!
One operation of a session over an injected transport. If its request can be made, it sends that and
nothing else and uses up one outcome. Its result is computed by `Operation.resultOf` from that
outcome, the settings and the local rules alone.
-/
namespace NodePanel

namespace Outcome

def received : Outcome → Except SendError Response
  | .answer a => .ok ⟨a.status, a.body, a.url⟩
  | .failure e => .error e

/-- The address that an outcome is ascribed to: that of the answer, if it names one. -/
def ascribedUrl (host path : Text) : Outcome → Text
  | .answer ⟨_, _, c :: rest, _⟩ => c :: rest
  | _ => host ++ path

end Outcome

def Channel.next (c : Channel) : Outcome := c.outcomes.headD (.failure exhausted)

/-- The channel after a request that was handed on as it is. -/
def Channel.afterRequest (c : Channel) (r : Request) : Channel :=
  { c with outcomes := c.outcomes.tail, sent := c.sent ++ [.request r] }

@[simp] theorem Transport.send_injected [Machine] (debug : Bool) (c : Channel) (r : Request) :
    (injected debug).send c r = (c.afterRequest r, c.next.received) := by
  obtain ⟨outcomes, sent, logs⟩ := c
  cases outcomes with
  | nil => rfl
  | cons outcome outcomes => cases outcome <;> rfl

namespace Operation

def namesNode : Operation → Bool
  | nodeInfo | nodeRules => false
  | _ => true

def method : Operation → Method
  | nodeInfo | userList | nodeRules => .get
  | _ => .post

def body : Operation → Json
  | reportStatus status => status.toJson
  | reportOnline users => .arr (users.map OnlineUser.toJson)
  | reportTraffic traffic => .arr (traffic.map Traffic.toJson)
  | reportIllegal hits => .arr (hits.map fun hit => (HitReport.ofHit hit).toJson)
  | _ => .null

def query (nodeId : Int) (operation : Operation) : List (Text × Text) :=
  if operation.namesNode then [("node_id", Text.ofInt nodeId)] else []

variable {nodeId : Int} {operation : Operation}

theorem request_eq (nodeId : Int) (operation : Operation) :
    operation.request nodeId = if operation.namesNode = true ∧ ¬ HasText nodeId then .error .digits
      else .ok ⟨operation.method, operation.endpoint.path, operation.query nodeId, operation.body⟩ := by
  have hnode {f : List (Text × Text) → Request} : (Endpoint.nodeQuery nodeId).map f =
      if true = true ∧ ¬ HasText nodeId then .error .digits
        else .ok (f [("node_id", Text.ofInt nodeId)]) := by
    unfold Endpoint.nodeQuery
    by_cases h : HasText nodeId
    · rw [if_pos h, if_neg fun hno => hno.2 h]
      rfl
    · rw [if_neg h, if_pos ⟨rfl, h⟩]
      rfl
  cases operation with
  | nodeInfo => rfl
  | nodeRules => rfl
  | _ => exact hnode

theorem request_eq_error_iff {escape : Escape} :
    operation.request nodeId = .error escape ↔
      operation.namesNode = true ∧ ¬ HasText nodeId ∧ escape = .digits := by
  rw [request_eq, ← and_assoc]
  split
  next h => exact ⟨fun he => ⟨h, (Except.error.inj he).symm⟩, fun he => congrArg _ he.2.symm⟩
  next h => exact iff_of_false nofun fun he => h he.1

theorem request_eq_ok_iff {r : Request} :
    operation.request nodeId = .ok r ↔ (operation.namesNode = true → HasText nodeId) ∧
      ⟨operation.method, operation.endpoint.path, operation.query nodeId, operation.body⟩ = r := by
  rw [request_eq]
  split
  next h => exact iff_of_false nofun fun hr => h.2 (hr.1 h.1)
  next h => exact ⟨fun hr => ⟨by simpa using h, Except.ok.inj hr⟩, fun hr => congrArg _ hr.2⟩

theorem exists_request_iff :
    (∃ r, operation.request nodeId = .ok r) ↔ (operation.namesNode = true → HasText nodeId) := by
  simp only [request_eq_ok_iff, exists_and_left, exists_eq', and_true]

private theorem path_of_request {r : Request} (h : operation.request nodeId = .ok r) :
    r.path = operation.endpoint.path :=
  (congrArg Request.path (request_eq_ok_iff.1 h).2).symm

variable [Machine]

/-- What the data of an answer say to a session with some settings and local rules. -/
def read (settings : Settings) (rules : List Rule) (datas : Json) :
    Operation → Except Escape Reply
  | nodeInfo =>
    (NodeInfo.read datas settings.nodeType settings.nodeId settings.enableVless).map Reply.node
  | userList =>
    ((User.listOfDatas datas settings.speedLimit settings.deviceLimit).mapError
      Escape.speedLimit).map Reply.users
  | nodeRules => .ok (.rules (Rule.listOfDatas datas rules))
  | _ => .ok .accepted

def opened (settings : Settings) (rules : List Rule) (operation : Operation) (outcome : Outcome) :
    Except CallError Reply :=
  let path := operation.endpoint.path
  (Session.deliveryOf outcome.received).datas path (outcome.ascribedUrl settings.apiHost path) >>=
    fun datas => (operation.read settings rules datas).mapError .escape

/-- The result of an operation, by the outcome of its request if there is one. -/
def resultOf (settings : Settings) (rules : List Rule) (operation : Operation)
    (outcome : Outcome) : Except CallError Reply :=
  (operation.request settings.nodeId).mapError .escape >>= fun _ =>
    operation.opened settings rules outcome

variable {settings : Settings} {rules : List Rule} {outcome : Outcome}

theorem resultOf_of_request {r : Request} (h : operation.request settings.nodeId = .ok r) :
    operation.resultOf settings rules outcome = operation.opened settings rules outcome := by
  unfold resultOf
  rw [h]
  rfl

theorem resultOf_of_no_request {escape : Escape}
    (h : operation.request settings.nodeId = .error escape) :
    operation.resultOf settings rules outcome = .error (.escape escape) := by
  unfold resultOf
  rw [h]
  rfl

theorem place_of_resultOf {error : PanelError}
    (h : operation.resultOf settings rules outcome = .error (.panel error)) :
    error.path = operation.endpoint.path ∧
      error.url = outcome.ascribedUrl settings.apiHost operation.endpoint.path := by
  cases hr : operation.request settings.nodeId with
  | error escape =>
    exact nomatch (resultOf_of_no_request hr).symm.trans h
  | ok r =>
    rw [resultOf_of_request hr] at h
    rcases Result.bind_eq_error_iff.1 h with hdatas | ⟨datas, -, hread⟩
    · exact Delivery.place_of_datas_eq_error hdatas
    · obtain ⟨escape, -, hescape⟩ := Result.mapError_eq_error_iff.1 hread
      contradiction

end Operation

namespace Session

@[simp] theorem urlOf_received (s : Session) (path : Text) (outcome : Outcome) :
    s.urlOf path outcome.received = outcome.ascribedUrl s.settings.apiHost path := by
  cases outcome with
  | answer answer =>
    obtain ⟨status, body, url, charset⟩ := answer
    cases url <;> rfl
  | failure error => rfl

def resultLogs (s : Session) : Except CallError Reply → List LogRecord
  | .ok reply => s.replyLogs reply
  | .error _ => []

variable [Machine]

theorem read_eq (s : Session) (datas : Json) (operation : Operation) :
    s.read datas operation = operation.read s.settings s.localRules datas := by
  cases operation <;> rfl

theorem perform_of_no_request {s : Session} {c : Channel} {operation : Operation} {escape : Escape}
    (h : operation.request s.settings.nodeId = .error escape) :
    s.perform c operation = (c, .error (.escape escape)) := by
  unfold perform
  rw [h]

/-- With a request, whatever the transport gives counts as its outcome. -/
theorem perform_of_send {s : Session} {c d : Channel} {operation : Operation} {r : Request}
    {outcome : Outcome} (hr : operation.request s.settings.nodeId = .ok r)
    (hsend : s.transport.send c r = (d, outcome.received)) :
    s.perform c operation =
      (d.logAll (s.resultLogs (operation.opened s.settings s.localRules outcome)),
        operation.opened s.settings s.localRules outcome) := by
  have hpath := Operation.path_of_request hr
  simp only [perform, call, hr, hsend, hpath, urlOf_received, Operation.opened, read_eq]
  cases (deliveryOf outcome.received).datas operation.endpoint.path
      (outcome.ascribedUrl s.settings.apiHost operation.endpoint.path) with
  | error error => simp [resultLogs, Channel.logAll, bind, Except.bind]
  | ok datas =>
    cases hread : operation.read s.settings s.localRules datas with
    | error escape => simp [resultLogs, Channel.logAll, bind, Except.bind, hread]
    | ok reply => simp [resultLogs, bind, Except.bind, hread]

end Session

end NodePanel
