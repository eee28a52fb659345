import NodePanel.Proofs.Panel.Report
import NodePanel.Proofs.Session.Own
import NodePanel.Proofs.Settings.Host

/-!
Tracing changes nothing but the log. A run that is traced and one that is not have the same events,
send the same, and log the same but for the traces. What is traced is the request of an operation
and its answer, if and only if the last toggle was on.
-/
namespace NodePanel

def LogRecord.isTrace (r : LogRecord) : Bool := r.level == .debug && r.source == .transport

/-! What is left without traces -/

def Channel.untraced (c : Channel) : Channel := { c with logs := c.logs.filter (!·.isTrace) }

def World.untraced (w : World) : World :=
  { w with session := w.session.setDebug false, channel := w.channel.untraced }

/-! What is logged about an operation -/

namespace Transport

variable {debug : Bool} {messages : List Text}

@[simp] theorem filter_isTrace_trace : (trace debug messages).filter LogRecord.isTrace =
    trace debug messages := by
  refine List.filter_eq_self.2 fun r hr => ?_
  unfold trace at hr
  split at hr
  · obtain ⟨message, -, rfl⟩ := List.mem_map.1 hr
    rfl
  · contradiction

@[simp] theorem filter_not_isTrace_trace : (trace debug messages).filter (!·.isTrace) = [] := by
  rw [← filter_isTrace_trace, List.filter_filter]
  simp

theorem trace_ne_nil_iff (h : messages ≠ []) : trace debug messages ≠ [] ↔ debug = true := by
  cases debug with
  | false => exact iff_of_false (not_not_intro rfl) nofun
  | true => exact iff_of_true (fun hmap => h (List.map_eq_nil_iff.1 hmap)) rfl

end Transport

private theorem Outcome.level_of_mem_failureLogs {outcome : Outcome} {request : Request}
    {r : LogRecord}
    (h : r ∈ outcome.failureLogs request) : r.level = .warning := by
  cases outcome with
  | answer a => contradiction
  | failure error =>
    change r ∈ Transport.failureLogs request error at h
    unfold Transport.failureLogs at h
    split at h
    · rw [List.mem_singleton.1 h]
    · contradiction

theorem Session.place_of_mem_resultLogs {s : Session} {result : Except CallError Reply}
    {r : LogRecord} (h : r ∈ s.resultLogs result) : r.level = .debug ∧ r.source = .session := by
  cases result with
  | error error => contradiction
  | ok reply =>
    cases reply with
    | users users =>
      rw [List.mem_singleton.1 h]
      exact ⟨rfl, rfl⟩
    | node info => contradiction
    | rules rules => contradiction
    | accepted => contradiction

private theorem Outcome.isTrace_of_mem_failureLogs {outcome : Outcome} {request : Request}
    {r : LogRecord}
    (h : r ∈ outcome.failureLogs request) : r.isTrace = false := by
  simp [LogRecord.isTrace, level_of_mem_failureLogs h]

private theorem Session.isTrace_of_mem_resultLogs {s : Session} {result : Except CallError Reply}
    {r : LogRecord} (h : r ∈ s.resultLogs result) : r.isTrace = false := by
  simp [LogRecord.isTrace, place_of_mem_resultLogs h]

/-! Channels -/

@[simp] theorem Channel.untraced_logAll (c : Channel) (records : List LogRecord) :
    (c.logAll records).untraced = c.untraced.logAll (records.filter (!·.isTrace)) := by
  simp [untraced, logAll]

private theorem Channel.untraced_logAll_of_forall {c : Channel} {records : List LogRecord}
    (h : ∀ r ∈ records, r.isTrace = false) :
    (c.logAll records).untraced = c.untraced.logAll records := by
  rw [untraced_logAll, List.filter_eq_self.2 fun r hr => by rw [h r hr]; rfl]

private theorem Channel.untraced_afterWire [Machine] {c : Channel} (h : c.next.IsReadable)
    (debug : Bool)
    (r : Request) (wire : WireRequest) :
    (c.afterWire debug r wire).untraced = c.untraced.afterWire false r wire := by
  have hfailure (outcome : Outcome) :
      (outcome.failureLogs r).filter (!·.isTrace) = outcome.failureLogs r :=
    List.filter_eq_self.2 fun record hrecord => by
      rw [Outcome.isTrace_of_mem_failureLogs hrecord]
      rfl
  simp only [untraced, afterWire, List.filter_append, Transport.filter_not_isTrace_trace, hfailure,
    Outcome.onWire_of_isReadable h debug wire]
  rfl

private theorem Transport.send_untraced [Machine] (t : Transport) {c : Channel}
    (h : c.next.IsReadable) (r : Request) :
    (t.setDebug false).send c.untraced r = ((t.send c r).1.untraced, (t.send c r).2) := by
  cases t with
  | injected debug =>
    show (injected false).send c.untraced r = _
    rw [send_injected, send_injected]
    rfl
  | owned client debug closed =>
    show (owned client false closed).send c.untraced r = _
    cases hprepare : client.prepare r with
    | error error => rw [send_of_prepare_eq_error hprepare, send_of_prepare_eq_error hprepare]
    | ok wire =>
      cases closed with
      | true => rw [send_closed hprepare, send_closed hprepare]
      | false =>
        rw [send_owned hprepare, send_owned hprepare, Channel.untraced_afterWire h,
          Outcome.onWire_of_isReadable h debug wire]
        rfl

namespace Session

private theorem perform_untraced [Machine] (s : Session) {c : Channel} (h : c.next.IsReadable)
    (operation : Operation) :
    (s.setDebug false).perform c.untraced operation =
      ((s.perform c operation).1.untraced, (s.perform c operation).2) := by
  cases hr : operation.request s.settings.nodeId with
  | error escape =>
    rw [perform_of_no_request hr, perform_of_no_request (s := s.setDebug false) hr]
  | ok r =>
    obtain ⟨outcome, houtcome⟩ := Outcome.exists_received (s.transport.send c r).2
    have huntraced := s.transport.send_untraced h r
    rw [houtcome] at huntraced
    rw [perform_of_send hr (Prod.ext rfl houtcome),
      perform_of_send (s := s.setDebug false) hr huntraced,
      Channel.untraced_logAll_of_forall fun _ => isTrace_of_mem_resultLogs]
    rfl

@[simp] theorem setDebug_setDebug (s : Session) (enabled : Bool) :
    (s.setDebug enabled).setDebug false = s.setDebug false := by
  obtain ⟨settings, load, transport⟩ := s
  cases transport <;> rfl

def withoutToggles (actions : List Action) : List Action :=
  actions.filter (·.toggle?.isNone)

end Session

namespace World

open Session

variable [Machine]

def eventsWithoutToggles (w : World) (actions : List Action) : List Event :=
  ((actions.zip (w.run actions).2).filter (·.1.toggle?.isNone)).map (·.2)

private theorem untraced_step_of_toggle {action : Action} {enabled : Bool}
    (h : action.toggle? = some enabled) (w : World) : (w.step action).1.untraced = w.untraced := by
  cases action with
  | setDebug enabled =>
    show ({ w with session := (w.session.setDebug enabled).setDebug false,
                   channel := w.channel.untraced } : World) = _
    rw [setDebug_setDebug]
    rfl
  | perform operation => contradiction
  | describe => contradiction
  | changeFiles files => contradiction

private theorem step_untraced {action : Action} (h : action.toggle? = none) {w : World}
    (hreadable : w.channel.next.IsReadable) :
    w.untraced.step action = ((w.step action).1.untraced, (w.step action).2) := by
  cases action with
  | perform operation =>
    have hperform := w.session.perform_untraced hreadable operation
    unfold step untraced
    dsimp only
    rw [hperform]
  | describe => rfl
  | setDebug enabled => contradiction
  | changeFiles files => rfl

theorem outcomes_step_suffix (w : World) (action : Action) :
    (w.step action).1.channel.outcomes <:+ w.channel.outcomes := by
  cases action with
  | perform operation => exact w.session.outcomes_perform_suffix w.channel operation
  | describe => exact List.suffix_rfl
  | setDebug enabled => exact List.suffix_rfl
  | changeFiles files => exact List.suffix_rfl

private theorem outcomes_run_suffix (w : World) (actions : List Action) :
    (w.run actions).1.channel.outcomes <:+ w.channel.outcomes := by
  induction actions generalizing w with
  | nil => exact List.suffix_rfl
  | cons action actions ih =>
    rw [run_cons]
    exact (ih _).trans (w.outcomes_step_suffix action)

/-- A run without toggles does and gives what a run with toggles does and gives, but for traces. -/
theorem run_untraced {w : World} (hreadable : ∀ outcome ∈ w.channel.outcomes, outcome.IsReadable)
    (actions : List Action) :
    w.untraced.run (withoutToggles actions) =
      ((w.run actions).1.untraced, w.eventsWithoutToggles actions) := by
  induction actions generalizing w with
  | nil => rfl
  | cons action actions ih =>
    have hrun := ih fun outcome houtcome =>
      hreadable outcome ((w.outcomes_step_suffix action).subset houtcome)
    cases htoggle : action.toggle? with
    | some enabled =>
      -- The run on the left does not take this action, and the world on the right does not show it.
      have hactions : withoutToggles (action :: actions) = withoutToggles actions := by
        simp [withoutToggles, htoggle]
      have hevents : w.eventsWithoutToggles (action :: actions) =
          (w.step action).1.eventsWithoutToggles actions := by
        simp [eventsWithoutToggles, htoggle]
      rw [untraced_step_of_toggle htoggle] at hrun
      rw [hactions, hevents, hrun]
      rfl
    | none =>
      have hactions : withoutToggles (action :: actions) = action :: withoutToggles actions := by
        simp [withoutToggles, htoggle]
      have hevents : w.eventsWithoutToggles (action :: actions) =
          (w.step action).2 :: (w.step action).1.eventsWithoutToggles actions := by
        simp [eventsWithoutToggles, htoggle]
      rw [hactions, hevents, run_cons, step_untraced htoggle (Channel.isReadable_next hreadable), hrun]
      rfl

end World

theorem Url.fits_of_path_eq_nil {u : Url} (hpath : u.path = []) (hlength : u.toText.length ≤ limit)
    {nodeId : Int} (hnode : HasText nodeId) : u.Fits nodeId where
  address := hlength
  path := fun e => by
    rw [hpath]
    cases e <;> decide
  query := by
    have hdigits : (Text.ofNat nodeId.natAbs).length ≤ 4300 := hnode
    have hnumber : (Text.ofInt nodeId).length ≤ (Text.ofNat nodeId.natAbs).length + 1 := by
      unfold Text.ofInt
      split <;> simp
    have hname : (Text.ofString "node_id=").length = 8 := rfl
    have hlimit : limit = 65536 := rfl
    rw [nodeText, List.length_append]
    omega

/-- A request that is traced has a line, and so has its body if there is one; then there are lines
about the status and the body of the answer, if one arrived. -/
theorem Outcome.exists_trace_messages [Machine] {outcome : Outcome} (h : outcome.IsReadable)
    {wire : WireRequest} (htype : wire.url.hasType = true) :
    let line := wire.method.name ++ CodePoint.ofChar ' ' :: wire.url.toText
    ∃ answered, outcome.messages wire = (Text.ofString "--> " ++ line) ::
          (if wire.body = [] then []
            else [Text.ofString "--> body " ++ Utf8.decodeLossy wire.body]) ++ answered ∧
      (∀ error, outcome = .failure error → answered = []) ∧
      ∀ a, outcome = .answer a → ∃ t, Transport.answerText a = .ok t ∧
        answered = [Text.ofString "<-- " ++ Text.ofInt a.status ++ CodePoint.ofChar ' ' :: line,
          Text.ofString "<-- body " ++ t] := by
  intro line
  have hrequest : Transport.requestMessages wire = (Text.ofString "--> " ++ line) ::
      if wire.body = [] then []
      else [Text.ofString "--> body " ++ Utf8.decodeLossy wire.body] := by
    simp only [Transport.requestMessages, List.isEmpty_iff]
    rfl
  cases outcome with
  | failure error =>
    exact ⟨[], by simp [messages, hrequest], fun _ _ => rfl, fun _ ha => by contradiction⟩
  | answer a =>
    obtain ⟨t, ht⟩ := h a rfl
    refine ⟨a.messages wire, by simp [messages, hrequest, htype], fun _ herror => by contradiction,
      fun _ ha => ?_⟩
    cases ha
    exact ⟨t, ht, by simp [Answer.messages, ht]; exact ⟨rfl, rfl⟩⟩

namespace World

open Session

section

variable [Machine]

/-- Toggles change nothing but the traces: whatever else is done, it gives the same, sends the same
and logs the same besides. An operation is traced if and only if the last toggle was on: its request
with the body, if there is one, and then the answer, if one arrived. Whether it is traced or not,
there is a warning if the exchange failed, and no other. -/
theorem toggles_change_only_traces {settings : Settings} {u : Url} (h : settings.IsPlain u)
    (hpath : u.path = []) (hnode : HasText settings.nodeId) {files : Tree}
    {outcomes : List Outcome} (hreadable : ∀ outcome ∈ outcomes, outcome.IsReadable) {w : World}
    (hw : startOwned files settings outcomes = .ok w) :
    (∀ actions actions' : List Action, withoutToggles actions = withoutToggles actions' →
      w.eventsWithoutToggles actions = w.eventsWithoutToggles actions' ∧
        (w.run actions).1.untraced = (w.run actions').1.untraced) ∧
    ∀ (earlier : List Action) (operation : Operation), operation.IsSendable →
      let before := (w.run earlier).1.channel
      let after := (w.run (earlier ++ [.perform operation])).1.channel
      ∃ (wire : WireRequest) (traces warnings said : List LogRecord),
        after.sent = before.sent ++ [.wire wire] ∧
        after.logs = before.logs ++ (traces ++ warnings ++ said) ∧
        (traces ≠ [] ↔ isTraced earlier = true) ∧
        (isTraced earlier = true →
          let line := wire.method.name ++ CodePoint.ofChar ' ' :: wire.url.toText
          ∃ answered : List Text,
            traces = ((Text.ofString "--> " ++ line) ::
              (if wire.body = [] then []
                else [Text.ofString "--> body " ++ Utf8.decodeLossy wire.body]) ++ answered).map
              (LogRecord.mk .debug .transport) ∧
            (∀ error, before.next = .failure error → answered = []) ∧
            ∀ a, before.next = .answer a → HasText a.status →
              ∃ t, Transport.answerText a = .ok t ∧ answered =
                [Text.ofString "<-- " ++ Text.ofInt a.status ++ CodePoint.ofChar ' ' :: line,
                  Text.ofString "<-- body " ++ t]) ∧
        (∀ a, before.next = .answer a → warnings = []) ∧
        (∀ error, before.next = .failure error → warnings = if error.fault.isExchange then
          [⟨.warning, .transport, Text.ofString "Request " ++ operation.method.name ++
            CodePoint.ofChar ' ' :: operation.endpoint.path ++ Text.ofString " failed: " ++
            error.message.getD []⟩] else []) ∧
        ∀ r ∈ said, r.level = .debug ∧ r.source = .session := by
  obtain ⟨client, load, hclient, hsession, houtcomes⟩ := exists_of_startOwned hw
  have hreadable : ∀ outcome ∈ w.channel.outcomes, outcome.IsReadable := by rwa [houtcomes]
  constructor
  · intro actions actions' hsame
    have hrun := run_untraced hreadable actions
    rw [hsame, run_untraced hreadable actions'] at hrun
    obtain ⟨hworld, hevents⟩ := Prod.mk.inj hrun
    exact ⟨hevents.symm, hworld.symm⟩
  · intro earlier operation hsendable before after
    have hlength := HttpClient.length_le_of_create hclient
    rw [h.apiHost_eq] at hlength
    obtain ⟨client', hclient', hsend⟩ := h.exists_client (Url.fits_of_path_eq_nil hpath hlength hnode)
    obtain rfl : client = client' := Except.ok.inj (hclient.symm.trans hclient')
    obtain ⟨r, hr⟩ := Operation.exists_request_iff.2 fun _ => hnode
    have hmade := (Operation.request_eq_ok_iff.1 hr).2
    obtain ⟨wire, hwire, htype⟩ := hsend operation hsendable r hr
    have htraced : (w.run earlier).1.session =
        sessionOver settings load client (isTraced earlier) := session_run hsession earlier
    have hchannel : after = (before.afterWire (isTraced earlier) r wire).logAll
        ((w.run earlier).1.session.resultLogs
          (resultOver settings load (isTraced earlier) operation wire before.next)) := by
      show (w.run (earlier ++ [.perform operation])).1.channel = _
      rw [run_append, run_cons]
      exact (step_perform htraced hr hwire).2
    have hnext : before.next.IsReadable := Channel.isReadable_next fun outcome houtcome =>
      hreadable outcome ((w.outcomes_run_suffix earlier).subset houtcome)
    obtain ⟨answered, hmessages, hfailed, hanswered⟩ := Outcome.exists_trace_messages hnext htype
    refine ⟨wire, Transport.trace (isTraced earlier) (before.next.messages wire),
      (before.next.onWire (isTraced earlier) wire).failureLogs r, _, congrArg Channel.sent hchannel,
      (congrArg Channel.logs hchannel).trans (List.append_assoc _ _ _),
      Transport.trace_ne_nil_iff (by rw [hmessages]; exact List.cons_ne_nil _ _),
      fun hon => ⟨answered, ?_, hfailed, fun a ha _ => hanswered a ha⟩, fun a ha => ?_,
      fun error herror => ?_, fun _ => place_of_mem_resultLogs⟩
    · rw [hmessages, hon]
      rfl
    · rw [ha, Outcome.onWire_answer htype fun _ => hnext a ha]
      rfl
    · rw [herror, ← hmade]
      rfl

end

section

attribute [local instance] Machine.usual

/-- An exchange that is traced and fails, and one that is traced in one run only. -/
theorem toggles_around_a_failure :
    ∃ settings u w, Settings.IsPlain settings u ∧ u.path = [] ∧ HasText settings.nodeId ∧
      startOwned .empty settings
        [.failure ⟨.readTimeout, "late"⟩, .answer ⟨200, acceptedBody, [], none⟩] = .ok w ∧
      w.eventsWithoutToggles [.setDebug true, .perform .userList, .setDebug false,
          .perform (.reportOnline [⟨7, "é"⟩])] =
        w.eventsWithoutToggles [.perform .userList, .setDebug true,
          .perform (.reportOnline [⟨7, "é"⟩])] ∧
      ∃ traces warnings said, (w.run [.setDebug true, .perform .userList]).1.channel.logs =
          (w.run [.setDebug true]).1.channel.logs ++ (traces ++ warnings ++ said) ∧
        (traces ≠ [] ↔ isTraced [.setDebug true] = true) ∧ warnings.length = 1 := by
  let u : Url := ⟨"http", [], "panel.test", some 8080, [], none, none⟩
  let settings : Settings := { Settings.ofHost "http://panel.test:8080" with key := "k" }
  have hsettings : settings.IsPlain u := by decide
  have hnode : HasText settings.nodeId := by decide
  obtain ⟨client, hclient, -⟩ :=
    hsettings.exists_client (Url.fits_of_path_eq_nil rfl (by decide) hnode)
  have hstart : startOwned .empty settings
      [.failure ⟨.readTimeout, "late"⟩, .answer ⟨200, acceptedBody, [], none⟩] = .ok _ :=
    startOwned_eq hclient rfl
  have hreadable : ∀ outcome ∈ ([.failure ⟨.readTimeout, "late"⟩,
      .answer ⟨200, acceptedBody, [], none⟩] : List Outcome), outcome.IsReadable := by
    simp only [List.forall_mem_cons]
    exact ⟨Outcome.isReadable_failure _, Outcome.isReadable_of_charset_eq_none rfl,
      List.forall_mem_nil _⟩
  obtain ⟨hsame, htraces⟩ := toggles_change_only_traces hsettings rfl hnode hreadable hstart
  obtain ⟨hevents, -⟩ := hsame [.setDebug true, .perform .userList, .setDebug false,
      .perform (.reportOnline [⟨7, "é"⟩])]
    [.perform .userList, .setDebug true, .perform (.reportOnline [⟨7, "é"⟩])] rfl
  obtain ⟨wire, traces, warnings, said, -, hlogs, htraced, -, -, hwarning, -⟩ :=
    htraces [.setDebug true] .userList trivial
  refine ⟨settings, u, _, hsettings, rfl, hnode, hstart, hevents, traces, warnings, said, hlogs,
    htraced, ?_⟩
  rw [hwarning ⟨.readTimeout, "late"⟩ rfl]
  rfl

end

/-! What toggles change besides -/

section

variable [Machine]

@[simp] theorem resultLogs_opened_failure (s : Session) (operation : Operation)
    (error : SendError) :
    s.resultLogs (operation.opened s.settings s.localRules (.failure error)) = [] := by
  cases hopened : operation.opened s.settings s.localRules (.failure error) with
  | ok reply => exact absurd hopened (Operation.opened_failure_ne_ok _)
  | error e => rfl

private theorem channel_step_of_closed {w : World} {client : HttpClient} {debug : Bool}
    (h : w.session.transport = .owned client debug true) (operation : Operation) :
    (w.step (.perform operation)).1.channel = w.channel := by
  show (w.session.perform w.channel operation).1 = w.channel
  cases hr : operation.request w.session.settings.nodeId with
  | error escape => rw [perform_of_no_request hr]
  | ok r =>
    have hsend : ∃ error, w.session.transport.send w.channel r =
        (w.channel, (Outcome.failure error).received) := by
      rw [h]
      cases hprepare : client.prepare r with
      | error error => exact ⟨error, Transport.send_of_prepare_eq_error hprepare debug true _⟩
      | ok wire => exact ⟨_, Transport.send_closed hprepare debug _⟩
    obtain ⟨error, hsend⟩ := hsend
    rw [perform_of_send hr hsend, resultLogs_opened_failure]
    simp [Channel.logAll]

private theorem events_differ_of_unreadable {settings : Settings} {load : RuleLoad}
    {client : HttpClient}
    (hsend : client.CanSend settings.nodeId) {a : Answer} (ha : a.IsAccepted) {error : SendError}
    (herror : Transport.answerText a = .error error) {w : World}
    (hw : w.session = sessionOver settings load client false) (hnext : w.channel.next = .answer a) :
    w.eventsWithoutToggles [.setDebug true, .perform .nodeInfo] ≠
      w.eventsWithoutToggles [.perform .nodeInfo] := by
  have hrequest : Operation.nodeInfo.request settings.nodeId = .ok Request.nodeInfo := rfl
  obtain ⟨wire, hwire, htype⟩ := hsend .nodeInfo trivial _ hrequest
  have hlost : (w.step (.setDebug true)).1.session = sessionOver settings load client true :=
    session_step hw (.setDebug true)
  have hon : (Outcome.answer a).onWire true wire = .failure error := by
    simp [Outcome.onWire, htype, Answer.reported, herror, Except.map]
  have hoff : (Outcome.answer a).onWire false wire =
      .answer ⟨a.status, a.body, wire.url.toText, none⟩ := 
    Outcome.onWire_answer htype fun hfalse => by contradiction
  obtain ⟨reply, hreply⟩ := Operation.exists_opened_nodeInfo load.rules settings
    (a := ⟨a.status, a.body, wire.url.toText, none⟩) ha
  have htraced : w.eventsWithoutToggles [.setDebug true, .perform .nodeInfo] =
      [.result (resultOver settings load true .nodeInfo wire (.answer a))] := by
    rw [← hnext]
    exact congrArg ([·]) (step_perform hlost hrequest hwire).1
  have huntraced : w.eventsWithoutToggles [.perform .nodeInfo] = [.result (.ok reply)] := by
    have hresult := (step_perform hw hrequest hwire).1
    rw [hnext, resultOver, hoff, hreply] at hresult
    exact congrArg ([·]) hresult
  rw [htraced, huntraced, resultOver, hon]
  intro hsame
  exact Operation.opened_failure_ne_ok _ (Event.result.inj (List.cons_eq_cons.1 hsame).1)

end

/-- A reader of UTF-16 that does not guess the order of the octets. -/
def markedUtf16 (octets : Octets) : Except SendError Text :=
  let decode (bigEndian : Bool) : Text :=
    ((Encoding.utf16 bigEndian).decode? (octets.drop 2)).getD [CodePoint.replacement]
  if [0xFE, 0xFF].isPrefixOf octets then .ok (decode true)
  else if [0xFF, 0xFE].isPrefixOf octets then .ok (decode false)
  else .error ⟨.other "UnicodeError" false, Text.ofString "UTF-16 stream does not start with BOM"⟩

@[reducible] def machineWithUtf16 : Machine :=
  { Machine.usual with charset? := fun name => if name = "utf-16" then some markedUtf16 else none }

/-- The smallest envelope that is accepted, without a mark for the order of its octets. -/
def unmarkedAnswer : Answer :=
  ⟨200, (Encoding.utf16 false).encode "\x7b\"response\":\x7b\"code\":200\x7d\x7d", [],
    some "utf-16"⟩

attribute [local instance] Machine.usual

/-- With the last toggle on nothing is traced if the session was closed or if the number of the node
has no text, and what an answer gives can depend on the last toggle if the body of the answer cannot
be read in the encoding that it names. -/
theorem toggles_not_transparent :
    ∃ (settings settings' : Settings) (u : Url) (w w' v : World),
      Settings.load .empty [] [] [("api_host", .str "http://panel.test")] = .ok settings ∧
      Settings.load .empty [] []
        [("api_host", .str "http://panel.test"), ("node_id", .int (10 ^ integerDigitLimit : Nat))] =
        .ok settings' ∧
      settings.IsPlain u ∧ settings'.IsPlain u ∧ u.path = [] ∧
      startOwned .empty settings [.answer ⟨200, acceptedBody, [], none⟩] = .ok w ∧
      (run { w with session := w.session.close }
        [.setDebug true, .perform .nodeInfo]).1.channel.logs = [] ∧
      startOwned .empty settings' [.answer ⟨200, acceptedBody, [], none⟩] = .ok w' ∧
      (w'.run [.setDebug true, .perform .userList]).1.channel.logs = [] ∧
      startOwned .empty settings [.answer unmarkedAnswer] = .ok v ∧
      @eventsWithoutToggles machineWithUtf16 v [.setDebug true, .perform .nodeInfo] ≠
        @eventsWithoutToggles machineWithUtf16 v [.perform .nodeInfo] := by
  have hlong := Numeral.not_hasText_pow
  -- Nothing but this matters about the number, and its digits must not be computed.
  generalize 10 ^ integerDigitLimit = n at hlong ⊢
  let u : Url := ⟨"http", [], "panel.test", none, [], none, none⟩
  let settings := Settings.ofHost "http://panel.test"
  let settings' : Settings := { settings with nodeId := n }
  have hhost : Settings.readHost (.str "http://panel.test") = .ok "http://panel.test" := by
    decide +kernel
  have hsettings : settings.IsPlain u := by decide
  have hsettings' : settings'.IsPlain u :=
    ⟨hsettings.isPlain, hsettings.query_eq, hsettings.apiHost_eq, hsettings.isAscii_key⟩
  obtain ⟨client, hclient, hsend⟩ :=
    hsettings.exists_client (Url.fits_of_path_eq_nil rfl (by decide) (by decide))
  have hclient' : HttpClient.create settings' [] = .ok client :=
    (HttpClient.create_node settings n).trans hclient
  have hdiffer := @events_differ_of_unreadable machineWithUtf16 settings .none client hsend
    unmarkedAnswer (by decide +kernel) _ rfl
    ⟨sessionOver settings .none client false, Channel.ofOutcomes [.answer unmarkedAnswer], .empty⟩
    rfl rfl
  refine ⟨settings, settings', u, _, _, _, Settings.load_host hhost, Settings.load_host_node hhost _,
    hsettings, hsettings', rfl, startOwned_eq hclient rfl, ?_, startOwned_eq hclient' rfl, ?_,
    startOwned_eq hclient rfl, hdiffer⟩
  · rw [run_cons, run_cons]
    exact congrArg Channel.logs (channel_step_of_closed rfl .nodeInfo)
  · have hnone : Operation.userList.request settings'.nodeId = .error .digits :=
      Operation.request_eq_error_iff.2 ⟨rfl, hlong, rfl⟩
    rw [run_cons, run_cons, step_of_no_request hnone]
    rfl

end World

end NodePanel
