import NodePanel.Proofs.Session.Exchange
import NodePanel.Proofs.Session.Prepare
import NodePanel.Proofs.Session.Run
import NodePanel.Proofs.Text.Masked

/-!
The key of a session is a secret. A session that has the masked key instead does and gives the same,
but for the header with the key and for what it says about itself, and these have the masked key
too. So two keys that look alike when masked cannot be told apart.
-/
namespace NodePanel

/-! The same with the key masked -/

def Settings.hideKey (settings : Settings) : Settings :=
  { settings with key := Text.masked settings.key }

def Headers.hideKey (headers : Headers) : Headers :=
  headers.map fun (name, value) =>
    (name, if name = HttpClient.keyHeader then Text.masked value else value)

def HttpClient.hideKey (client : HttpClient) : HttpClient :=
  { client with headers := client.headers.hideKey }

def WireRequest.hideKey (wire : WireRequest) : WireRequest :=
  { wire with headers := wire.headers.hideKey }

def Sent.hideKey : Sent → Sent
  | .request r => .request r
  | .wire r => .wire r.hideKey

def Channel.hideKey (c : Channel) : Channel := { c with sent := c.sent.map Sent.hideKey }

def Transport.hideKey : Transport → Transport
  | .injected debug => .injected debug
  | .owned client debug closed => .owned client.hideKey debug closed

def SessionInfo.hideKey (info : SessionInfo) : SessionInfo :=
  { info with key := Text.masked info.key }

def Session.hideKey (s : Session) : Session :=
  { s with settings := s.settings.hideKey, transport := s.transport.hideKey }

def Session.Event.hideKey : Session.Event → Session.Event
  | .description info => .description info.hideKey
  | event => event

def World.hideKey (w : World) : World :=
  { w with session := w.session.hideKey, channel := w.channel.hideKey }

/-- Two settings that differ in the key at most, with keys in ASCII that look alike when masked. -/
structure Settings.LookAlike (settings settings' : Settings) : Prop where
  hideKey_eq : settings.hideKey = settings'.hideKey
  isAscii_key : ∀ c ∈ settings.key, c.isAscii = true
  isAscii_key' : ∀ c ∈ settings'.key, c.isAscii = true

theorem Settings.hideKey_eq_of_key {settings settings' : Settings}
    (hothers : { settings with key := settings'.key } = settings')
    (hmasked : Text.masked settings.key = Text.masked settings'.key) :
    settings.hideKey = settings'.hideKey := by
  rw [← hothers, hideKey, hmasked]
  rfl

theorem Settings.LookAlike.ruleListPath_eq {settings settings' : Settings}
    (h : settings.LookAlike settings') : settings.ruleListPath = settings'.ruleListPath := by
  show settings.hideKey.ruleListPath = settings'.hideKey.ruleListPath
  rw [h.hideKey_eq]

/-! Requests -/

namespace HttpClient

@[simp] theorem prepare_hideKey (client : HttpClient) (r : Request) :
    client.hideKey.prepare r = (client.prepare r).map WireRequest.hideKey := by
  -- Headers are copied into the request and decide nothing on the way.
  show _ = WireRequest.hideKey <$> client.prepare r
  unfold prepare
  simp only [map_bind, map_pure]
  rfl

private theorem create_hideKey {settings : Settings} (h : ∀ c ∈ settings.key, c.isAscii = true) :
    create settings.hideKey [] = (create settings []).map hideKey := by
  have hfault : Headers.fault? (headersFor settings.key []) = none :=
    fault?_ownHeaders_eq_none_iff.2 h
  have hfault' : Headers.fault? (headersFor settings.hideKey.key []) = none :=
    fault?_ownHeaders_eq_none_iff.2 (Text.isAscii_masked h)
  show _ = hideKey <$> create settings []
  unfold create
  simp only [map_bind, hfault, hfault', map_pure]
  rfl

end HttpClient

/-! Channels -/

namespace Channel

@[simp] theorem hideKey_afterRequest (c : Channel) (r : Request) :
    (c.afterRequest r).hideKey = c.hideKey.afterRequest r := by
  unfold hideKey afterRequest
  rw [List.map_append]
  rfl

end Channel

section

variable [Machine]

@[simp] theorem Outcome.onWire_hideKey (outcome : Outcome) (debug : Bool) (wire : WireRequest) :
    outcome.onWire debug wire.hideKey = outcome.onWire debug wire := by
  cases outcome <;> rfl

@[simp] theorem Channel.hideKey_afterWire (c : Channel) (debug : Bool) (r : Request)
    (wire : WireRequest) :
    (c.afterWire debug r wire).hideKey = c.hideKey.afterWire debug r wire.hideKey := by
  have hmessages : c.next.messages wire.hideKey = c.next.messages wire := by
    cases c.next <;> rfl
  have hwire : c.hideKey.next.onWire debug wire.hideKey = c.next.onWire debug wire :=
    c.next.onWire_hideKey debug wire
  unfold afterWire
  rw [hwire]
  unfold hideKey
  rw [List.map_append, ← hmessages]
  rfl

@[simp] theorem Transport.send_hideKey (t : Transport) (c : Channel) (r : Request) :
    t.hideKey.send c.hideKey r = ((t.send c r).1.hideKey, (t.send c r).2) := by
  cases t with
  | injected debug =>
    show (injected debug).send c.hideKey r = _
    rw [send_injected, send_injected, Channel.hideKey_afterRequest]
    rfl
  | owned client debug closed =>
    show (owned client.hideKey debug closed).send c.hideKey r = _
    have hhidden := client.prepare_hideKey r
    cases hprepare : client.prepare r with
    | error error =>
      rw [hprepare] at hhidden
      rw [send_of_prepare_eq_error hhidden, send_of_prepare_eq_error hprepare]
    | ok wire =>
      rw [hprepare] at hhidden
      cases closed with
      | true => rw [send_closed hhidden, send_closed hprepare]
      | false =>
        rw [send_owned hhidden, send_owned hprepare, Outcome.onWire_hideKey,
          Channel.hideKey_afterWire]
        rfl

end

/-! Sessions -/

namespace Session

@[simp] theorem setDebug_hideKey (s : Session) (enabled : Bool) :
    (s.setDebug enabled).hideKey = s.hideKey.setDebug enabled := by
  obtain ⟨settings, load, transport⟩ := s
  cases transport <;> rfl

section

variable [Machine] (s : Session) (c : Channel)

@[simp] theorem call_hideKey (r : Request) :
    s.hideKey.call c.hideKey r = ((s.call c r).1.hideKey, (s.call c r).2) := by
  have hsend : s.hideKey.transport.send c.hideKey r = _ := s.transport.send_hideKey c r
  unfold call
  rw [hsend]
  rfl

@[simp] theorem askNodeInfo_hideKey : s.hideKey.askNodeInfo c.hideKey =
    ((s.askNodeInfo c).1.hideKey, (s.askNodeInfo c).2) := by
  unfold askNodeInfo
  rw [call_hideKey]
  rfl

@[simp] theorem perform_hideKey (operation : Operation) : s.hideKey.perform c.hideKey operation =
    ((s.perform c operation).1.hideKey, (s.perform c operation).2) := by
  cases hr : operation.request s.settings.nodeId with
  | error escape =>
    rw [perform_of_no_request hr, perform_of_no_request (s := s.hideKey) hr]
  | ok r =>
    obtain ⟨outcome, houtcome⟩ := Outcome.exists_received (s.transport.send c r).2
    have hhidden := s.transport.send_hideKey c r
    rw [houtcome] at hhidden
    rw [perform_of_send hr (Prod.ext rfl houtcome), perform_of_send (s := s.hideKey) hr hhidden]
    rfl

variable {s c} {s' : Session} {c' : Channel}

theorem perform_of_hideKey_eq (hs : s.hideKey = s'.hideKey) (hc : c.hideKey = c'.hideKey)
    (operation : Operation) : (s.perform c operation).1.hideKey =
        (s'.perform c' operation).1.hideKey ∧
      (s.perform c operation).2 = (s'.perform c' operation).2 := by
  have hperform := s.perform_hideKey c operation
  rw [hs, hc, perform_hideKey] at hperform
  obtain ⟨hchannel, hresult⟩ := Prod.mk.inj hperform
  exact ⟨hchannel.symm, hresult.symm⟩

theorem askNodeInfo_of_hideKey_eq (hs : s.hideKey = s'.hideKey) (hc : c.hideKey = c'.hideKey) :
    (s.askNodeInfo c).1.hideKey = (s'.askNodeInfo c').1.hideKey ∧
      (s.askNodeInfo c).2 = (s'.askNodeInfo c').2 := by
  have hask := s.askNodeInfo_hideKey c
  rw [hs, hc, askNodeInfo_hideKey] at hask
  obtain ⟨hchannel, hresult⟩ := Prod.mk.inj hask
  exact ⟨hchannel.symm, hresult.symm⟩

end

theorem openOwned_hideKey {settings : Settings} (h : ∀ c ∈ settings.key, c.isAscii = true)
    (files : Tree) : openOwned files settings.hideKey =
      (openOwned files settings).map fun (s, logs) => (s.hideKey, logs) := by
  unfold openOwned
  rw [HttpClient.create_hideKey h]
  cases HttpClient.create settings [] with
  | error error => rfl
  | ok client =>
    show openOver files settings.hideKey (.owned client.hideKey false false) = _
    show _ =
      (fun (s, logs) => (hideKey s, logs)) <$> openOver files settings (.owned client false false)
    unfold openOver
    simp only [map_bind, map_pure]
    rfl

/-- The files matter to a session for its local rules only. -/
theorem openOwned_of_load_eq {files files' : Tree} {settings : Settings}
    (h : RuleLoad.ofOption files (settings.ruleListPath.map Path.toText) =
      RuleLoad.ofOption files' (settings.ruleListPath.map Path.toText)) :
    openOwned files settings = openOwned files' settings := by
  unfold openOwned openOver
  rw [h]

theorem openOwned_of_lookAlike {settings settings' : Settings} (h : settings.LookAlike settings')
    {files files' : Tree} (hload : RuleLoad.ofOption files (settings.ruleListPath.map Path.toText) =
      RuleLoad.ofOption files' (settings'.ruleListPath.map Path.toText)) :
    (∃ error, openOwned files settings = .error error ∧ openOwned files' settings' = .error error) ∨
    ∃ s s' logs, openOwned files settings = .ok (s, logs) ∧
      openOwned files' settings' = .ok (s', logs) ∧ s.hideKey = s'.hideKey := by
  have hpath := h.ruleListPath_eq
  have hhidden := openOwned_hideKey h.isAscii_key files
  rw [h.hideKey_eq, openOwned_hideKey h.isAscii_key',
    openOwned_of_load_eq (hpath ▸ hload : RuleLoad.ofOption files (settings'.ruleListPath.map _) =
      RuleLoad.ofOption files' _)] at hhidden
  -- Both are opened as with the masked key, so they fail together or open together.
  revert hhidden
  cases openOwned files' settings' with
  | error error =>
    cases openOwned files settings with
    | error error' =>
      intro hhidden
      exact .inl ⟨error, congrArg Except.error (Except.error.inj hhidden).symm, rfl⟩
    | ok opened => exact nofun
  | ok opened =>
    cases openOwned files settings with
    | error error => exact nofun
    | ok opened' =>
      intro hhidden
      obtain ⟨hsession, hlogs⟩ := Prod.mk.inj (Except.ok.inj hhidden)
      refine .inr ⟨opened'.1, opened.1, opened'.2, rfl, ?_, hsession.symm⟩
      rw [← hlogs]

end Session

/-! Runs -/

namespace World

open Session

section

variable [Machine]

@[simp] theorem step_hideKey (w : World) (action : Action) :
    w.hideKey.step action = ((w.step action).1.hideKey, (w.step action).2.hideKey) := by
  cases action with
  | perform operation =>
    have hperform := w.session.perform_hideKey w.channel operation
    unfold step hideKey
    dsimp only
    rw [hperform]
    rfl
  | describe => rfl
  | setDebug enabled =>
    show (({ w.hideKey with session := w.session.hideKey.setDebug enabled } : World), _) = _
    rw [← setDebug_hideKey]
    rfl
  | changeFiles files => rfl

@[simp] theorem run_hideKey (w : World) (actions : List Action) :
    w.hideKey.run actions = ((w.run actions).1.hideKey, (w.run actions).2.map Event.hideKey) := by
  induction actions generalizing w with
  | nil => rfl
  | cons action actions ih =>
    rw [run_cons, run_cons, step_hideKey, ih]
    rfl

theorem run_of_hideKey_eq {w w' : World} (h : w.hideKey = w'.hideKey) (actions : List Action) :
    (w.run actions).1.hideKey = (w'.run actions).1.hideKey ∧
      (w.run actions).2.map Event.hideKey = (w'.run actions).2.map Event.hideKey := by
  have hrun := w.run_hideKey actions
  rw [h, run_hideKey] at hrun
  obtain ⟨hworld, hevents⟩ := Prod.mk.inj hrun
  exact ⟨hworld.symm, hevents.symm⟩

end

theorem startOwned_of_lookAlike {settings settings' : Settings} (h : settings.LookAlike settings')
    (files : Tree) (outcomes : List Outcome) :
    (∃ error, startOwned files settings outcomes = .error error ∧
      startOwned files settings' outcomes = .error error) ∨
    ∃ w w', startOwned files settings outcomes = .ok w ∧
      startOwned files settings' outcomes = .ok w' ∧ w.hideKey = w'.hideKey := by
  have hload : RuleLoad.ofOption files (settings.ruleListPath.map Path.toText) =
      RuleLoad.ofOption files (settings'.ruleListPath.map Path.toText) := by
    rw [h.ruleListPath_eq]
  unfold startOwned
  rcases openOwned_of_lookAlike h hload with
    ⟨error, hopen, hopen'⟩ | ⟨s, s', logs, hopen, hopen', hsession⟩
  · rw [hopen, hopen']
    exact .inl ⟨error, rfl, rfl⟩
  · rw [hopen, hopen']
    refine .inr ⟨_, _, rfl, rfl, ?_⟩
    unfold hideKey
    rw [hsession]

end World

end NodePanel
