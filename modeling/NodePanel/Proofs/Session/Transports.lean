import NodePanel.Proofs.Session.Own
import NodePanel.Proofs.Settings.Host

/-!
An injected transport and the session's own give the same. Over a plain address, as long as no part
of the address of a request is too long, every run has the same events over both, but for the
addresses that panel errors name.
-/
namespace NodePanel

/-! What is left without addresses -/

def PanelError.withoutUrl (e : PanelError) : PanelError := { e with url := [] }

def CallError.withoutUrl : CallError → CallError
  | .panel error => .panel error.withoutUrl
  | error => error

namespace Session

def Event.withoutUrl : Event → Event
  | .result r => .result (r.mapError CallError.withoutUrl)
  | event => event

end Session

def Outcome.content : Outcome → Except SendError (Int × Octets)
  | .answer a => .ok (a.status, a.body)
  | .failure error => .error error

private theorem PanelError.withoutUrl_raised (path url url' : Text) (fault : PanelFault) :
    (raised ⟨path, url, fault⟩).withoutUrl = (raised ⟨path, url', fault⟩).withoutUrl := by
  unfold raised
  dsimp only
  cases escape? fault <;> rfl

section

variable [Machine]

theorem Delivery.withoutUrl_datas (d : Delivery) (path url url' : Text) :
    (d.datas path url).mapError CallError.withoutUrl =
      (d.datas path url').mapError CallError.withoutUrl := by
  have hraised (fault : PanelFault) : (Except.error (PanelError.raised ⟨path, url, fault⟩) :
      Except CallError Json).mapError CallError.withoutUrl =
      (Except.error (PanelError.raised ⟨path, url', fault⟩)).mapError CallError.withoutUrl :=
    congrArg Except.error (PanelError.withoutUrl_raised path url url' fault)
  obtain ⟨response, error⟩ := d
  cases error with
  | some error => exact hraised _
  | none =>
    cases response with
    | none => exact hraised _
    | some response =>
      simp only [datas, openEnvelope]
      split
      · exact hraised _
      cases Json.ofOctets? response.body with
      | none => exact hraised _
      | some tree =>
        dsimp only
        cases Envelope.ofJson tree with
        | error escape => rfl
        | ok envelope =>
          by_cases hcode : envelope.code = some Envelope.successCode
          · simp only [if_pos hcode, Result.mapError_ok]
          · simpa only [if_neg hcode] using hraised _

theorem Outcome.withoutUrl_datas {outcome outcome' : Outcome}
    (h : outcome.content = outcome'.content) (path url url' : Text) :
    ((Session.deliveryOf outcome.received).datas path url).mapError CallError.withoutUrl =
      ((Session.deliveryOf outcome'.received).datas path url').mapError CallError.withoutUrl := by
  cases outcome with
  | answer a =>
    cases outcome' with
    | answer a' =>
      obtain ⟨status, body, _, _⟩ := a
      obtain ⟨status', body', _, _⟩ := a'
      cases h
      exact Delivery.withoutUrl_datas (.answered ⟨status, body, []⟩) path url url'
    | failure error => contradiction
  | failure error =>
    cases outcome' with
    | answer a => contradiction
    | failure error' =>
      cases h
      exact Delivery.withoutUrl_datas _ path url url'

private theorem Operation.withoutUrl_opened {outcome outcome' : Outcome}
    (h : outcome.content = outcome'.content) (settings : Settings) (rules : List Rule)
    (operation : Operation) :
    (operation.opened settings rules outcome).mapError CallError.withoutUrl =
      (operation.opened settings rules outcome').mapError CallError.withoutUrl := by
  simp only [opened, Result.mapError_bind]
  rw [Outcome.withoutUrl_datas h]

private theorem Outcome.content_onWire {debug : Bool} {wire : WireRequest}
    (htype : wire.url.hasType = true)
    {outcome : Outcome} (h : debug = true → outcome.IsReadable) :
    (outcome.onWire debug wire).content = outcome.content := by
  cases outcome with
  | answer a => rw [onWire_answer htype fun hdebug => h hdebug a rfl]; rfl
  | failure error => rfl

end

namespace World

open Session

variable {settings : Settings} {load : RuleLoad} {client : HttpClient} {w v : World}

/-- Two open sessions with the same settings and rules, one over an injected transport and one over
its own, that will have the same outcomes. If these are reported, they can be. -/
structure Mirrors [Machine] (settings : Settings) (load : RuleLoad) (client : HttpClient)
    (w v : World) : Prop where
  injected : Serves settings load w
  owned : ∃ debug, v.session = sessionOver settings load client debug ∧
    (debug = true → ∀ outcome ∈ v.channel.outcomes, outcome.IsReadable)
  outcomes_eq : v.channel.outcomes = w.channel.outcomes

section

variable [Machine]

theorem Mirrors.step (h : Mirrors settings load client w v)
    (hsend : client.CanSend settings.nodeId) {action : Action} (hsendable : action.IsSendable)
    (htoggle : action = .setDebug true → ∀ outcome ∈ w.channel.outcomes, outcome.IsReadable) :
    Mirrors settings load client (w.step action).1 (v.step action).1 ∧
      (w.step action).2.withoutUrl = (v.step action).2.withoutUrl := by
  obtain ⟨hserves, ⟨debug, hsession, hreadable⟩, houtcomes⟩ := h
  obtain ⟨hserves', -, htail, hevent⟩ := hserves.step action
  have houtcomes' : (v.step action).1.channel.outcomes = (w.step action).1.channel.outcomes := by
    rw [outcomes_step hsession hsend hsendable, htail, houtcomes]
  refine ⟨⟨hserves', ⟨_, session_step hsession action, fun hdebug outcome houtcome => ?_⟩,
    houtcomes'⟩, ?_⟩
  · rw [houtcomes', htail] at houtcome
    have hmem := List.mem_of_mem_drop houtcome
    cases htoggled : action.toggle? with
    | none =>
      rw [htoggled] at hdebug
      exact hreadable hdebug outcome (houtcomes ▸ hmem)
    | some enabled =>
      rw [htoggled] at hdebug
      cases action with
      | setDebug enabled' =>
        cases htoggled
        cases hdebug
        exact htoggle rfl outcome hmem
      | perform operation => contradiction
      | describe => contradiction
      | changeFiles files => contradiction
  · rw [hevent]
    cases action with
    | perform operation =>
      cases hr : operation.request settings.nodeId with
      | error escape =>
        have hnone : operation.request v.session.settings.nodeId = .error escape := by
          rw [hsession]
          exact hr
        rw [step_of_no_request hnone]
        exact congrArg (Event.withoutUrl ∘ Event.result) (Operation.resultOf_of_no_request hr)
      | ok r =>
        obtain ⟨wire, hwire, htype⟩ := hsend operation hsendable r hr
        have hnext : v.channel.next = w.channel.next := by
          unfold Channel.next
          rw [houtcomes]
        have hcontent := Outcome.content_onWire htype fun hdebug =>
          Channel.isReadable_next (hreadable hdebug)
        rw [(step_perform hsession hr hwire).1]
        show Event.withoutUrl (.result (operation.resultOf settings load.rules w.channel.next)) = _
        rw [Operation.resultOf_of_request hr]
        rw [hnext] at hcontent ⊢
        exact congrArg Event.result
          (Operation.withoutUrl_opened hcontent.symm settings load.rules operation)
    | describe =>
      -- The two sessions differ in their transports only, and a description names none.
      show _ = (Event.description v.session.describe).withoutUrl
      rw [hsession]
      rfl
    | setDebug enabled => rfl
    | changeFiles files => rfl

theorem Mirrors.run (h : Mirrors settings load client w v) (hsend : client.CanSend settings.nodeId)
    {actions : List Action} (hsendable : ∀ action ∈ actions, action.IsSendable)
    (htoggle : .setDebug true ∈ actions → ∀ outcome ∈ w.channel.outcomes, outcome.IsReadable) :
    (w.run actions).2.map Event.withoutUrl = (v.run actions).2.map Event.withoutUrl := by
  induction actions generalizing w v with
  | nil => rfl
  | cons action actions ih =>
    rw [List.forall_mem_cons] at hsendable
    obtain ⟨hmirrors, hevent⟩ := h.step hsend hsendable.1 fun haction =>
      htoggle (haction ▸ List.mem_cons_self)
    have hrest := ih hmirrors hsendable.2 fun hmem outcome houtcome => by
      rw [(h.injected.step action).2.2.1] at houtcome
      exact htoggle (List.mem_cons_of_mem _ hmem) outcome (List.mem_of_mem_drop houtcome)
    rw [run_cons, run_cons, List.map_cons, List.map_cons, hevent, hrest]

/-- Over both transports a session is opened alike, and then everything that is done gives the same
values and the same errors, but for the addresses in them. To report an answer its body has to be
read, which an injected transport never does. -/
theorem events_of_either_transport {settings : Settings} {u : Url} (h : settings.IsPlain u)
    (hfits : u.Fits settings.nodeId) (files : Tree) (debug : Bool) (outcomes : List Outcome) :
    (∃ error, start files settings debug outcomes = .error error ∧
      startOwned files settings outcomes = .error error) ∨
    ∃ w v, start files settings debug outcomes = .ok w ∧
      startOwned files settings outcomes = .ok v ∧
      ∀ actions : List Action, (∀ action ∈ actions, action.IsSendable) →
        (.setDebug true ∈ actions → ∀ outcome ∈ outcomes, outcome.IsReadable) →
        (w.run actions).2.map Event.withoutUrl = (v.run actions).2.map Event.withoutUrl := by
  obtain ⟨client, hclient, hsend⟩ := h.exists_client hfits
  cases hload : RuleLoad.ofOption files (settings.ruleListPath.map Path.toText) with
  | error error =>
    refine .inl ⟨.file error, ?_, ?_⟩
    · simp [start, openOver, hload, bind, Except.bind]
    · simp [startOwned, openOwned_eq hclient, openOver, hload, bind, Except.bind]
  | ok loaded =>
    obtain ⟨load, logs⟩ := loaded
    have hmirrors : Mirrors settings load client
        ⟨⟨settings, load, .injected debug⟩, (Channel.ofOutcomes outcomes).logAll logs, files⟩
        ⟨sessionOver settings load client false, (Channel.ofOutcomes outcomes).logAll logs, files⟩ :=
      ⟨⟨rfl, rfl, debug, rfl⟩, ⟨false, rfl, nofun⟩, rfl⟩
    exact .inr ⟨_, _, start_eq hload, startOwned_eq hclient hload, fun _ => hmirrors.run hsend⟩

end

section

attribute [local instance] Machine.usual

/-- A host with a port and a path, and among the outcomes a refusal, a failure and none at all. -/
theorem events_of_nested_host :
    ∃ settings u w v, Settings.IsPlain settings u ∧ u.Fits settings.nodeId ∧
      start .empty settings true
        [.answer ⟨403, acceptedBody, [], none⟩, .failure ⟨.readTimeout, "late"⟩] = .ok w ∧
      startOwned .empty settings
        [.answer ⟨403, acceptedBody, [], none⟩, .failure ⟨.readTimeout, "late"⟩] = .ok v ∧
      (w.run [.perform (.reportOnline [⟨7, "é"⟩]), .setDebug true, .perform .userList,
          .perform .nodeInfo]).2.map Event.withoutUrl =
        (v.run [.perform (.reportOnline [⟨7, "é"⟩]), .setDebug true, .perform .userList,
          .perform .nodeInfo]).2.map Event.withoutUrl := by
  let u : Url := ⟨"HTTPS", [], "Panel.test", some 8443, "/v1", none, none⟩
  let settings : Settings := { Settings.ofHost "HTTPS://Panel.test:8443/v1" with key := "k" }
  have hsettings : settings.IsPlain u := by decide
  have hfits : u.Fits settings.nodeId := ⟨by decide, fun e => by cases e <;> decide, by decide⟩
  rcases events_of_either_transport hsettings hfits .empty true
    [.answer ⟨403, acceptedBody, [], none⟩, .failure ⟨.readTimeout, "late"⟩] with
    ⟨error, herror, -⟩ | ⟨w, v, hw, hv, hevents⟩
  · contradiction
  · refine ⟨settings, u, w, v, hsettings, hfits, hw, hv, hevents _ (by decide) fun _ => ?_⟩
    simp only [List.forall_mem_cons]
    exact ⟨Outcome.isReadable_of_charset_eq_none rfl, Outcome.isReadable_failure _,
      List.forall_mem_nil _⟩

end

end World

/-! A path that is too long -/

namespace Url

def longAddress (n : Nat) : Url :=
  ⟨"http", [], "h", none, slash :: List.replicate n (CodePoint.ofChar 'a'), none, none⟩

theorem isPlain_longAddress (n : Nat) : (longAddress n).IsPlain where
  head_scheme := rfl
  isSchemePoint := show ∀ c ∈ Text.ofString "http", isSchemePoint c = true by decide
  userinfo_eq := rfl
  isPlainHost := show IsPlainHost "h" by decide
  isPort := nofun
  isRooted := .inr ⟨_, rfl⟩
  isPathPoint := by
    refine List.forall_mem_cons.2 ⟨rfl, fun c hc => ?_⟩
    rw [List.eq_of_mem_replicate hc]
    rfl
  isQueryPoint := nofun
  fragment_eq := rfl

private theorem normalizePath_longAddress {n : Nat} (h : 2 < n) :
    normalizePath (longAddress n).path = (longAddress n).path := by
  let part : Text := List.replicate n (CodePoint.ofChar 'a')
  have hslash : slash ∉ part := fun hmem =>
    absurd (List.eq_of_mem_replicate hmem) (by decide)
  have hsplit : Text.splitOn slash (slash :: part) = [[], part] := by
    have hparts : ∀ piece ∈ ([[], part] : List Text), slash ∉ piece := by
      simp [hslash]
    have hjoin : Text.join [slash] [[], part] = slash :: part := by
      simp [Text.join]
    rw [← hjoin]
    exact Text.splitOn_join hparts (List.cons_ne_nil _ _)
  have hlong (short : Text) (hshort : short.length < n) : part ≠ short := fun heq => by
    have hlength : part.length = n := List.length_replicate
    rw [heq] at hlength
    omega
  refine normalizePath_of_isNormal fun piece hpiece => ?_
  rw [show (longAddress n).path = slash :: part from rfl, hsplit] at hpiece
  simp only [List.mem_cons, List.not_mem_nil, or_false] at hpiece
  rcases hpiece with rfl | rfl
  · decide
  · exact ⟨hlong _ (by simp [Text.ofString]; omega), hlong _ (by simp [Text.ofString]; omega)⟩

@[simp] theorem length_toText_longAddress (n : Nat) : (longAddress n).toText.length = n + 9 := by
  rw [(isPlain_longAddress n).toText_eq, (isPlain_longAddress n).authority_eq]
  simp [longAddress, Text.ofString]

private theorem any_getLast?_longAddress {n : Nat} (h : n ≠ 0) :
    (longAddress n).toText.getLast?.any Settings.isSlash = false := by
  have htext : (longAddress n).toText = (longAddress n).scheme ++ CodePoint.ofChar ':' ::
      (Text.ofString "//" ++ ((longAddress n).authority ++ [slash])) ++
        List.replicate n (CodePoint.ofChar 'a') := by
    rw [(isPlain_longAddress n).toText_eq]
    simp [longAddress]
  have hlast : (List.replicate n (CodePoint.ofChar 'a')).getLast? = some (CodePoint.ofChar 'a') :=
    List.getLast?_replicate.trans (if_neg h)
  rw [htext, List.getLast?_append, hlast]
  rfl

private theorem length_basePath (path : Text) :
    path.length ≤ (basePath path).length ∧ (basePath path).length ≤ path.length + 1 := by
  unfold basePath
  split
  · exact ⟨Nat.le_refl _, Nat.le_succ _⟩
  · simp

end Url

namespace World

open Session

section

variable [Machine]

private theorem step_of_unprepared {w : World} {settings : Settings} {load : RuleLoad}
    {client : HttpClient}
    {debug : Bool} (h : w.session = sessionOver settings load client debug) {operation : Operation}
    {r : Request} (hr : operation.request settings.nodeId = .ok r) {error : SendError}
    (herror : client.prepare r = .error error) :
    (w.step (.perform operation)).2 =
      .result (operation.opened settings load.rules (.failure error)) := by
  have hperform := perform_of_prepare_eq_error (s := sessionOver settings load client debug)
    rfl hr herror w.channel
  show Event.result (w.session.perform w.channel operation).2 = _
  rw [h, hperform]
  rfl

private theorem events_differ_of_unprepared {settings : Settings} {client : HttpClient}
    {error : SendError}
    (herror : client.prepare Request.nodeInfo = .error error) {a : Answer} (ha : a.IsAccepted)
    {c : Channel} (hc : c.next = .answer a) (load : RuleLoad) (debug : Bool) (files : Tree) :
    (run ⟨⟨settings, load, .injected debug⟩, c, files⟩ [.perform .nodeInfo]).2.map
        Event.withoutUrl ≠
      (run ⟨sessionOver settings load client false, c, files⟩ [.perform .nodeInfo]).2.map
        Event.withoutUrl := by
  let w : World := ⟨⟨settings, load, .injected debug⟩, c, files⟩
  have hserves : Serves settings load w := ⟨rfl, rfl, debug, rfl⟩
  obtain ⟨reply, hreply⟩ := Operation.exists_opened_nodeInfo load.rules settings ha
  have hinjected : (w.step (.perform .nodeInfo)).2 = .result (.ok reply) := by
    rw [(hserves.step (.perform .nodeInfo)).2.2.2, hc]
    exact congrArg Event.result ((Operation.resultOf_of_request rfl).trans hreply)
  have hrequest : Operation.nodeInfo.request settings.nodeId = .ok Request.nodeInfo := rfl
  rw [run_cons, run_cons, hinjected, step_of_unprepared rfl hrequest herror]
  intro hsame
  have hevents := Event.result.inj (List.cons_eq_cons.1 hsame).1
  cases hopened : Operation.nodeInfo.opened settings load.rules (.failure error) with
  | ok reply => exact Operation.opened_failure_ne_ok _ hopened
  | error e =>
    rw [hopened] at hevents
    contradiction

/-- With a path that is nearly as long as an address may be, an accepted host has a session over its
own transport, but no request gets out. -/
theorem events_differ_of_length {n : Nat} (hlow : 65516 ≤ n) (hhigh : n ≤ 65527) {a : Answer}
    (ha : a.IsAccepted) :
    ∃ settings w v, Settings.load .empty [] [] [("api_host", .str (Url.longAddress n).toText)] =
        .ok settings ∧ settings.IsPlain (Url.longAddress n) ∧
      start .empty settings false [.answer a] = .ok w ∧
      startOwned .empty settings [.answer a] = .ok v ∧
      (w.run [.perform .nodeInfo]).2.map Event.withoutUrl ≠
        (v.run [.perform .nodeInfo]).2.map Event.withoutUrl := by
  have hplain := Url.isPlain_longAddress n
  have hnormal := Url.normalizePath_longAddress (n := n) (by omega)
  have hlimit : Url.limit = 65536 := rfl
  have htext := Url.length_toText_longAddress n
  have hlength : (Url.longAddress n).path.length = n + 1 := by simp [Url.longAddress]
  obtain ⟨hbaseLow, hbaseHigh⟩ := Url.length_basePath (Url.longAddress n).path
  let settings := Settings.ofHost (Url.longAddress n).toText
  have hsettings : settings.IsPlain (Url.longAddress n) := ⟨hplain, rfl, rfl, nofun⟩
  have haccepted := Settings.load_host
    (Settings.readHost_toText hplain rfl (Url.any_getLast?_longAddress (n := n) (by omega)))
  obtain ⟨client, hclient, hbase⟩ := HttpClient.exists_create hplain rfl
    hsettings.apiHost_eq hsettings.isAscii_key (by omega) (by rw [hnormal]; omega)
  rw [hnormal] at hbase
  have hlong : Url.limit < (Url.requestPath (Url.longAddress n).path .nodeInfo).length := by
    have hrest : (Endpoint.nodeInfo.path.drop 1).length = 20 := by decide
    rw [Url.requestPath, List.length_append, hrest]
    omega
  have hprepare : client.prepare Request.nodeInfo = .error _ :=
    HttpClient.prepare_of_long hbase rfl hlong
  have hdiffer := @events_differ_of_unprepared _ settings _ _ hprepare _ ha
    ((Channel.ofOutcomes [.answer a]).logAll []) rfl .none false .empty
  exact ⟨settings, _, _, haccepted, hsettings, start_eq rfl, startOwned_eq hclient rfl, hdiffer⟩

end

attribute [local instance] Machine.usual

/-- So the two transports do not give the same for every accepted settings. -/
theorem events_differ_of_longAddress :
    ∃ settings w v, Settings.load .empty [] [] [("api_host", .str (Url.longAddress 65520).toText)] =
        .ok settings ∧ settings.IsPlain (Url.longAddress 65520) ∧
      start .empty settings false [.answer ⟨200, acceptedBody, [], none⟩] = .ok w ∧
      startOwned .empty settings [.answer ⟨200, acceptedBody, [], none⟩] = .ok v ∧
      (w.run [.perform .nodeInfo]).2.map Event.withoutUrl ≠
        (v.run [.perform .nodeInfo]).2.map Event.withoutUrl :=
  events_differ_of_length (by decide) (by decide) (by decide +kernel)

end World

end NodePanel
