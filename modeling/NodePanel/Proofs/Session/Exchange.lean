import Mathlib.Data.List.Infix
import NodePanel.Proofs.Session.Operation

/-!
One operation of a session over its own transport. The transport gives the outcome of the request on
the wire, with the address of that request, and says in the log what it sent, received or missed. An
answer whose body cannot be read is lost if it has to be reported.
-/
namespace NodePanel

namespace Answer

variable [Machine]

/-- What is traced about an answer: its status, and its body if that can be read. -/
def messages (wire : WireRequest) (a : Answer) : List Text :=
  Transport.answerMessage wire a.status ::
    match Transport.answerText a with
    | .ok t => [Transport.answerBodyMessage t]
    | .error _ => []

def reported (debug : Bool) (a : Answer) : Except SendError Unit :=
  if debug then (Transport.answerText a).map fun _ => () else .ok ()

/-- The body can be read in the encoding that the answer names. -/
def IsReadable (a : Answer) : Prop := ∃ t, Transport.answerText a = .ok t

theorem isReadable_of_charset_eq_none {a : Answer} (h : a.charset = none) : a.IsReadable := by
  unfold IsReadable Transport.answerText
  rw [h]
  split
  · exact ⟨_, rfl⟩
  · exact ⟨_, rfl⟩

theorem reported_eq_ok {debug : Bool} {a : Answer} (h : debug = true → a.IsReadable) :
    a.reported debug = .ok () := by
  cases debug with
  | false => rfl
  | true =>
    obtain ⟨t, ht⟩ := h rfl
    simp [reported, ht, Except.map]

end Answer

namespace Outcome

def failureLogs (r : Request) : Outcome → List LogRecord
  | .answer _ => []
  | .failure error => Transport.failureLogs r error

variable [Machine]

/-- The outcome of a request on the wire: an answer is one of its address, if that has a type. -/
def onWire (debug : Bool) (wire : WireRequest) : Outcome → Outcome
  | .answer a =>
    if wire.url.hasType then
      match a.reported debug with
      | .ok () => .answer ⟨a.status, a.body, wire.url.toText, none⟩
      | .error error => .failure error
    else .failure (Transport.untypedError wire.url)
  | .failure error => .failure error

/-- What is traced about a request on the wire: the request itself, and the answer if one arrived. -/
def messages (wire : WireRequest) : Outcome → List Text
  | .answer a =>
    Transport.requestMessages wire ++ if wire.url.hasType then a.messages wire else []
  | .failure _ => Transport.requestMessages wire

omit [Machine] in
theorem exists_received (result : Except SendError Response) :
    ∃ outcome : Outcome, result = outcome.received := by
  cases result with
  | ok response => exact ⟨.answer ⟨response.statusCode, response.body, response.url, none⟩, rfl⟩
  | error error => exact ⟨.failure error, rfl⟩

/-- If there is an answer, its body can be read in the encoding that it names. -/
def IsReadable (outcome : Outcome) : Prop := ∀ a, outcome = .answer a → a.IsReadable

theorem isReadable_failure (error : SendError) : (failure error).IsReadable := fun _ ha => by
  contradiction

theorem isReadable_of_charset_eq_none {a : Answer} (h : a.charset = none) :
    (Outcome.answer a).IsReadable := fun _ ha => by
  cases ha
  exact Answer.isReadable_of_charset_eq_none h

theorem onWire_answer {debug : Bool} {wire : WireRequest} (htype : wire.url.hasType = true)
    {a : Answer} (h : debug = true → a.IsReadable) :
    (Outcome.answer a).onWire debug wire = .answer ⟨a.status, a.body, wire.url.toText, none⟩ := by
  simp [onWire, htype, Answer.reported_eq_ok h]

theorem onWire_of_isReadable {outcome : Outcome} (h : outcome.IsReadable) (debug : Bool)
    (wire : WireRequest) : outcome.onWire debug wire = outcome.onWire false wire := by
  cases outcome with
  | failure error => rfl
  | answer a =>
    simp only [onWire, Answer.reported_eq_ok fun _ => h a rfl]

end Outcome

theorem Channel.isReadable_next [Machine] {c : Channel}
    (h : ∀ outcome ∈ c.outcomes, outcome.IsReadable) : c.next.IsReadable := by
  unfold next
  cases houtcomes : c.outcomes with
  | nil => exact nofun
  | cons outcome outcomes => exact h outcome (by rw [houtcomes]; exact List.mem_cons_self)

def Channel.afterWire [Machine] (c : Channel) (debug : Bool) (r : Request) (wire : WireRequest) :
    Channel :=
  { outcomes := c.outcomes.tail
    sent := c.sent ++ [.wire wire]
    logs := c.logs ++ (Transport.trace debug (c.next.messages wire) ++
      (c.next.onWire debug wire).failureLogs r) }

namespace Transport

@[simp] theorem trace_append (debug : Bool) (messages more : List Text) :
    trace debug (messages ++ more) = trace debug messages ++ trace debug more := by
  cases debug with
  | false => rfl
  | true => exact List.map_append

variable [Machine]

private theorem traceAnswer_eq (debug : Bool) (c : Channel) (wire : WireRequest) (a : Answer) :
    traceAnswer debug c wire a = (c.logAll (trace debug (a.messages wire)), a.reported debug) := by
  cases debug with
  | false => simp [traceAnswer, trace, Answer.reported, Channel.logAll]
  | true =>
    unfold traceAnswer Answer.reported Answer.messages
    cases answerText a with
    | error error => rfl
    | ok t => simp [Channel.logAll, trace, Except.map]

private theorem sendWire_eq (debug : Bool) (c : Channel) (r : Request) (wire : WireRequest) :
    sendWire debug c r wire = (c.afterWire debug r wire, (c.next.onWire debug wire).received) := by
  obtain ⟨outcomes, sent, logs⟩ := c
  have hfailure (error : SendError) : Channel.logAll
      ⟨outcomes.tail, sent ++ [.wire wire], logs ++ trace debug (requestMessages wire)⟩
      (failureLogs r error) = ⟨outcomes.tail, sent ++ [.wire wire],
        logs ++ (trace debug (requestMessages wire) ++ failureLogs r error)⟩ := by
    simp [Channel.logAll]
  cases outcomes with
  | nil => exact congrArg (·, _) (hfailure Channel.exhausted)
  | cons outcome outcomes =>
    cases outcome with
    | failure error => exact congrArg (·, _) (hfailure error)
    | answer a =>
      by_cases htype : wire.url.hasType
      · have hreceive (d : Channel) : receive debug d wire a =
            match a.reported debug with
            | .ok () => (d.logAll (trace debug (a.messages wire)),
                .ok ⟨a.status, a.body, wire.url.toText⟩)
            | .error error => (d.logAll (trace debug (a.messages wire)), .error error) := by
          rw [receive, if_pos htype, traceAnswer_eq]
          cases a.reported debug <;> rfl
        cases hreported : a.reported debug <;>
          simp [sendWire, Channel.logAll, Channel.exchange, Channel.afterWire, Channel.next, htype,
            hreceive, hreported, Outcome.messages, Outcome.failureLogs, Outcome.onWire,
            Outcome.received]
      · simp [sendWire, receive, Channel.logAll, Channel.exchange, Channel.afterWire, Channel.next,
          htype, Outcome.messages, Outcome.failureLogs, Outcome.onWire, Outcome.received]

theorem send_owned {client : HttpClient} {r : Request} {wire : WireRequest}
    (h : client.prepare r = .ok wire) (debug : Bool) (c : Channel) :
    (owned client debug false).send c r =
      (c.afterWire debug r wire, (c.next.onWire debug wire).received) := by
  simp [send, h, sendWire_eq]

theorem send_of_prepare_eq_error {client : HttpClient} {r : Request} {error : SendError}
    (h : client.prepare r = .error error) (debug closed : Bool) (c : Channel) :
    (owned client debug closed).send c r = (c, (Outcome.failure error).received) := by
  simp [send, h, Outcome.received]

theorem send_closed {client : HttpClient} {r : Request} {wire : WireRequest}
    (h : client.prepare r = .ok wire) (debug : Bool) (c : Channel) :
    (owned client debug true).send c r = (c, (Outcome.failure closedError).received) := by
  simp [send, h, Outcome.received]

private theorem outcomes_send_suffix (t : Transport) (c : Channel) (r : Request) :
    (t.send c r).1.outcomes <:+ c.outcomes := by
  cases t with
  | injected debug =>
    rw [send_injected]
    exact List.tail_suffix c.outcomes
  | owned client debug closed =>
    cases hprepare : client.prepare r with
    | error error =>
      rw [send_of_prepare_eq_error hprepare]
    | ok wire =>
      cases closed with
      | true =>
        rw [send_closed hprepare]
      | false =>
        rw [send_owned hprepare]
        exact List.tail_suffix c.outcomes

end Transport

namespace Session

variable [Machine] {s : Session} {client : HttpClient} {debug : Bool} {operation : Operation}
  {r : Request}

theorem perform_owned (h : s.transport = .owned client debug false)
    (hr : operation.request s.settings.nodeId = .ok r) {wire : WireRequest}
    (hwire : client.prepare r = .ok wire) (c : Channel) :
    s.perform c operation =
      let result := operation.opened s.settings s.localRules (c.next.onWire debug wire)
      ((c.afterWire debug r wire).logAll (s.resultLogs result), result) :=
  perform_of_send hr (by rw [h, Transport.send_owned hwire])

theorem perform_of_prepare_eq_error {closed : Bool} (h : s.transport = .owned client debug closed)
    (hr : operation.request s.settings.nodeId = .ok r) {error : SendError}
    (herror : client.prepare r = .error error) (c : Channel) :
    s.perform c operation =
      let result := operation.opened s.settings s.localRules (.failure error)
      (c.logAll (s.resultLogs result), result) :=
  perform_of_send hr (by rw [h, Transport.send_of_prepare_eq_error herror])

theorem outcomes_perform_suffix (s : Session) (c : Channel) (operation : Operation) :
    (s.perform c operation).1.outcomes <:+ c.outcomes := by
  cases hr : operation.request s.settings.nodeId with
  | error escape =>
    rw [perform_of_no_request hr]
  | ok r =>
    obtain ⟨outcome, houtcome⟩ := Outcome.exists_received (s.transport.send c r).2
    rw [perform_of_send hr (Prod.ext rfl houtcome)]
    exact s.transport.outcomes_send_suffix c r

end Session

end NodePanel
