import NodePanel.Proofs.Session.Exchange
import NodePanel.Proofs.Session.Prepare
import NodePanel.Proofs.Session.Run

/-!
Sessions over their own transport. A run leaves settings, local rules and client as they were, and
the transport traces what the last toggle says. With a plain address the request of every operation
whose records can be written goes out, so an operation takes one outcome and its result is computed
from that outcome on the wire.
-/
namespace NodePanel

open Session

/-- The client puts the requests of all operations whose records can be written on the wire. -/
def HttpClient.CanSend (client : HttpClient) (nodeId : Int) : Prop :=
  ∀ operation : Operation, operation.IsSendable → ∀ r, operation.request nodeId = .ok r →
    ∃ wire, client.prepare r = .ok wire ∧ wire.url.hasType = true

/-- No part of the address of a request is longer than an address may be. -/
structure Url.Fits (u : Url) (nodeId : Int) : Prop where
  address : u.toText.length ≤ Url.limit
  path : ∀ e, (Url.requestPath (Url.normalizePath u.path) e).length ≤ Url.limit
  query : (Url.nodeText nodeId).length ≤ Url.limit

/-- A panel whose host is a plain address, and a key that can be a header. -/
structure Settings.IsPlain (settings : Settings) (u : Url) : Prop where
  isPlain : u.IsPlain
  query_eq : u.query = none
  apiHost_eq : settings.apiHost = u.toText
  isAscii_key : ∀ c ∈ settings.key, c.isAscii = true

instance (settings : Settings) (u : Url) : Decidable (settings.IsPlain u) :=
  decidable_of_iff (u.IsPlain ∧ u.query = none ∧ settings.apiHost = u.toText ∧
      ∀ c ∈ settings.key, c.isAscii = true)
    ⟨fun ⟨hplain, hquery, hhost, hkey⟩ => ⟨hplain, hquery, hhost, hkey⟩,
      fun h => ⟨h.isPlain, h.query_eq, h.apiHost_eq, h.isAscii_key⟩⟩

theorem Settings.IsPlain.exists_base {settings : Settings} {u : Url} (h : settings.IsPlain u)
    (hfits : u.Fits settings.nodeId) :
    ∃ client, HttpClient.create settings [] = .ok client ∧
      client.baseUrl.IsBase (Url.normalizePath u.path) := by
  have hbase : (Url.basePath (Url.normalizePath u.path)).length ≤ Url.limit := by
    have hlength := hfits.path .nodeInfo
    simp only [Url.requestPath, List.length_append] at hlength
    omega
  exact HttpClient.exists_create h.isPlain h.query_eq h.apiHost_eq h.isAscii_key hfits.address hbase

theorem Settings.IsPlain.exists_client {settings : Settings} {u : Url} (h : settings.IsPlain u)
    (hfits : u.Fits settings.nodeId) :
    ∃ client, HttpClient.create settings [] = .ok client ∧ client.CanSend settings.nodeId := by
  obtain ⟨client, hclient, hbase⟩ := h.exists_base hfits
  refine ⟨client, hclient, fun operation hsendable r hr => ?_⟩
  obtain ⟨wire, hwire, htype, -⟩ :=
    HttpClient.exists_prepare hbase hsendable hr (hfits.path operation.endpoint) hfits.query
  exact ⟨wire, hwire, htype⟩

namespace Session

def Action.toggle? : Action → Option Bool
  | .setDebug enabled => some enabled
  | _ => none

/-- Whether the last toggle was on. -/
def isTraced (actions : List Action) : Bool :=
  (actions.filterMap Action.toggle?).getLast?.getD false

def Action.IsSendable : Action → Prop
  | .perform operation => operation.IsSendable
  | _ => True

instance : DecidablePred Action.IsSendable := fun action => by
  cases action <;> unfold Action.IsSendable <;> infer_instance

theorem openOwned_eq {files : Tree} {settings : Settings} {client : HttpClient}
    (h : HttpClient.create settings [] = .ok client) :
    openOwned files settings = openOver files settings (.owned client false false) := by
  simp [openOwned, h, bind, Except.bind]

theorem openOwned_eq_ok_iff {files : Tree} {settings : Settings} {session : Session}
    {logs : List LogRecord} :
    openOwned files settings = .ok (session, logs) ↔
      ∃ client load, HttpClient.create settings [] = .ok client ∧
        RuleLoad.ofOption files (settings.ruleListPath.map Path.toText) = .ok (load, logs) ∧
        session = ⟨settings, load, .owned client false false⟩ := by
  refine Result.bind_eq_ok_iff.trans (exists_congr fun client => ?_)
  rw [Result.mapError_eq_ok_iff, openOver_eq_ok_iff]
  simp only [exists_and_left]

end Session

namespace World

variable {settings : Settings} {load : RuleLoad} {client : HttpClient} {debug : Bool} {w : World}

def sessionOver (settings : Settings) (load : RuleLoad) (client : HttpClient) (debug : Bool) :
    Session :=
  ⟨settings, load, .owned client debug false⟩

section

variable [Machine]

theorem session_step (h : w.session = sessionOver settings load client debug) (action : Action) :
    (w.step action).1.session =
      sessionOver settings load client (action.toggle?.getD debug) := by
  cases action with
  | setDebug enabled =>
    show w.session.setDebug enabled = _
    rw [h]
    rfl
  | perform operation => exact h
  | describe => exact h
  | changeFiles files => exact h

theorem session_run (h : w.session = sessionOver settings load client debug)
    (actions : List Action) :
    (w.run actions).1.session = sessionOver settings load client
      ((actions.filterMap Action.toggle?).getLast?.getD debug) := by
  induction actions generalizing w debug with
  | nil => exact h
  | cons action actions ih =>
    have hrun := ih (session_step h action)
    rw [run_cons]
    cases htoggle : action.toggle? with
    | none =>
      rw [htoggle] at hrun
      rw [List.filterMap_cons_none htoggle]
      exact hrun
    | some enabled =>
      rw [htoggle] at hrun
      rw [List.filterMap_cons_some htoggle, List.getLast?_cons]
      exact hrun

/-- The result of an operation over its own transport, by the outcome of its request on the wire. -/
def resultOver (settings : Settings) (load : RuleLoad) (debug : Bool) (operation : Operation)
    (wire : WireRequest) (outcome : Outcome) : Except CallError Reply :=
  operation.opened settings load.rules (outcome.onWire debug wire)

/-- An operation takes one outcome, sends its request on the wire, and logs what is traced of it,
how it failed, and what the reply is. -/
theorem step_perform (h : w.session = sessionOver settings load client debug)
    {operation : Operation} {r : Request} (hr : operation.request settings.nodeId = .ok r)
    {wire : WireRequest} (hwire : client.prepare r = .ok wire) :
    (w.step (.perform operation)).2 =
        .result (resultOver settings load debug operation wire w.channel.next) ∧
      (w.step (.perform operation)).1.channel = (w.channel.afterWire debug r wire).logAll
        (w.session.resultLogs (resultOver settings load debug operation wire w.channel.next)) := by
  have hperform := perform_owned (s := sessionOver settings load client debug) rfl hr hwire w.channel
  show Event.result (w.session.perform w.channel operation).2 = _ ∧
    (w.session.perform w.channel operation).1 = _
  rw [h, hperform]
  exact ⟨rfl, rfl⟩

theorem step_of_no_request {operation : Operation} {escape : Escape}
    (h : operation.request w.session.settings.nodeId = .error escape) :
    w.step (.perform operation) = (w, .result (.error (.escape escape))) := by
  show (({ w with channel := (w.session.perform w.channel operation).1 } : World),
    Event.result (w.session.perform w.channel operation).2) = _
  rw [perform_of_no_request h]

theorem outcomes_step (h : w.session = sessionOver settings load client debug)
    (hsend : client.CanSend settings.nodeId) {action : Action} (hsendable : action.IsSendable) :
    (w.step action).1.channel.outcomes =
      w.channel.outcomes.drop (requestsOf settings.nodeId [action]).length := by
  cases action with
  | perform operation =>
    cases hr : operation.request settings.nodeId with
    | error escape =>
      have hnone : operation.request w.session.settings.nodeId = .error escape := by
        rw [h]
        exact hr
      rw [step_of_no_request hnone, requestsOf_perform_of_no_request hr]
      rfl
    | ok r =>
      obtain ⟨wire, hwire, -⟩ := hsend operation hsendable r hr
      rw [(step_perform h hr hwire).2, requestsOf_perform hr]
      exact List.drop_one.symm
  | describe => rfl
  | setDebug enabled => rfl
  | changeFiles files => rfl

end

theorem startOwned_eq {files : Tree} {outcomes : List Outcome} {logs : List LogRecord}
    (hclient : HttpClient.create settings [] = .ok client)
    (hload : RuleLoad.ofOption files (settings.ruleListPath.map Path.toText) = .ok (load, logs)) :
    startOwned files settings outcomes = .ok ⟨sessionOver settings load client false,
      (Channel.ofOutcomes outcomes).logAll logs, files⟩ := by
  have hopen := openOwned_eq_ok_iff.2 ⟨client, load, hclient, hload, rfl⟩
  unfold startOwned
  rw [hopen]
  rfl

theorem exists_of_startOwned {files : Tree} {outcomes : List Outcome}
    (h : startOwned files settings outcomes = .ok w) :
    ∃ client load, HttpClient.create settings [] = .ok client ∧
      w.session = sessionOver settings load client false ∧ w.channel.outcomes = outcomes := by
  obtain ⟨⟨session, logs⟩, hopen, hw⟩ := Result.bind_eq_ok_iff.1 h
  obtain ⟨client, load, hclient, -, rfl⟩ := openOwned_eq_ok_iff.1 hopen
  cases hw
  exact ⟨client, load, hclient, rfl, rfl⟩

end World

end NodePanel
