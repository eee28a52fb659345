import NodePanel.Proofs.Session.Failure
import NodePanel.Session.Run

/-!
Runs over an injected transport. A run leaves the settings and the local rules of its session as
they were and takes one outcome for each request that its operations make, in order. So the event of
an action is computed from the settings, the rules loaded at the start, the action and, for an
operation with a request, the outcome whose number is the number of requests before it.
-/
namespace NodePanel

namespace Session

def Action.operation? : Action → Option Operation
  | .perform operation => some operation
  | _ => none

def operations (actions : List Action) : List Operation := actions.filterMap Action.operation?

/-- The requests of the operations that have one. -/
def requestsOf (nodeId : Int) (actions : List Action) : List Request :=
  (operations actions).filterMap fun operation => (operation.request nodeId).toOption

@[simp] theorem requestsOf_append (nodeId : Int) (earlier later : List Action) :
    requestsOf nodeId (earlier ++ later) = requestsOf nodeId earlier ++ requestsOf nodeId later := by
  simp [requestsOf, operations]

theorem requestsOf_perform {nodeId : Int} {operation : Operation} {r : Request}
    (h : operation.request nodeId = .ok r) : requestsOf nodeId [.perform operation] = [r] := by
  simp [requestsOf, operations, Action.operation?, h, Except.toOption]

theorem requestsOf_perform_of_no_request {nodeId : Int} {operation : Operation} {escape : Escape}
    (h : operation.request nodeId = .error escape) : requestsOf nodeId [.perform operation] = [] := by
  simp [requestsOf, operations, Action.operation?, h, Except.toOption]

/-- The event of an action, by the outcome of its request if it sends one. -/
def Action.eventOf [Machine] (settings : Settings) (rules : List Rule) (outcome : Outcome) :
    Action → Event
  | .perform operation => .result (operation.resultOf settings rules outcome)
  | .describe =>
    .description ⟨settings.apiHost, settings.nodeId, settings.key, settings.nodeType⟩
  | _ => .done

end Session

namespace World

open Session

/-- A session as it was opened, but for the debug mode of its transport. -/
structure Serves (settings : Settings) (load : RuleLoad) (w : World) : Prop where
  settings_eq : w.session.settings = settings
  load_eq : w.session.load = load
  transport_eq : ∃ debug, w.session.transport = .injected debug

theorem start_eq {files : Tree} {settings : Settings} {load : RuleLoad} {debug : Bool}
    {outcomes : List Outcome} {logs : List LogRecord}
    (hload : RuleLoad.ofOption files (settings.ruleListPath.map Path.toText) = .ok (load, logs)) :
    start files settings debug outcomes =
      .ok ⟨⟨settings, load, .injected debug⟩, (Channel.ofOutcomes outcomes).logAll logs, files⟩ := by
  have hopen := (openOver_eq_ok_iff (.injected debug)).2 ⟨load, hload, rfl⟩
  unfold start
  rw [hopen]
  rfl

section

variable [Machine] {settings : Settings} {load : RuleLoad} {w : World}

/-- One action keeps the session, takes an outcome if it makes a request, and gives its event. -/
theorem Serves.step (h : Serves settings load w) (action : Action) :
    Serves settings load (w.step action).1 ∧
      (w.step action).1.channel.sent = w.channel.sent ++
        (requestsOf settings.nodeId [action]).map .request ∧
      (w.step action).1.channel.outcomes =
        w.channel.outcomes.drop (requestsOf settings.nodeId [action]).length ∧
      (w.step action).2 = action.eventOf settings load.rules w.channel.next := by
  obtain ⟨rfl, rfl, debug, hdebug⟩ := h
  cases action with
  | perform operation =>
    have hkept : Serves w.session.settings w.session.load (w.step (.perform operation)).1 :=
      ⟨rfl, rfl, debug, hdebug⟩
    have hchannel : (w.step (.perform operation)).1.channel =
        (w.session.perform w.channel operation).1 := rfl
    refine ⟨hkept, ?_, ?_, congrArg Event.result (result_of_perform hdebug w.channel operation)⟩ <;>
      rw [hchannel] <;> cases hr : operation.request w.session.settings.nodeId with
    | error escape =>
      rw [perform_of_no_request hr, requestsOf_perform_of_no_request hr]
      simp
    | ok r =>
      rw [perform_of_send hr ((congrArg (·.send w.channel r) hdebug).trans
        (Transport.send_injected debug w.channel r)), requestsOf_perform hr]
      simp [Channel.logAll, Channel.afterRequest]
  | describe => exact ⟨⟨rfl, rfl, debug, hdebug⟩, (List.append_nil _).symm, rfl, rfl⟩
  | setDebug enabled =>
    refine ⟨⟨rfl, rfl, enabled, ?_⟩, (List.append_nil _).symm, rfl, rfl⟩
    show w.session.transport.setDebug enabled = _
    rw [hdebug]
    rfl
  | changeFiles files => exact ⟨⟨rfl, rfl, debug, hdebug⟩, (List.append_nil _).symm, rfl, rfl⟩

@[simp] theorem run_cons (w : World) (action : Action) (actions : List Action) :
    w.run (action :: actions) =
      (((w.step action).1.run actions).1,
        (w.step action).2 :: ((w.step action).1.run actions).2) :=
  rfl

/-- A run sends the requests of its operations and takes as many outcomes. -/
theorem Serves.run (h : Serves settings load w) (actions : List Action) :
    Serves settings load (w.run actions).1 ∧
      (w.run actions).1.channel.sent = w.channel.sent ++
        (requestsOf settings.nodeId actions).map .request ∧
      (w.run actions).1.channel.outcomes =
        w.channel.outcomes.drop (requestsOf settings.nodeId actions).length := by
  induction actions generalizing w with
  | nil => exact ⟨h, (List.append_nil _).symm, rfl⟩
  | cons action actions ih =>
    obtain ⟨hstep, hsent, houtcomes, -⟩ := h.step action
    obtain ⟨hrun, hsent', houtcomes'⟩ := ih hstep
    have hcons := requestsOf_append settings.nodeId [action] actions
    rw [List.singleton_append] at hcons
    rw [run_cons, hcons, List.map_append, List.length_append, ← List.append_assoc,
      ← List.drop_drop, ← hsent, ← houtcomes]
    exact ⟨hrun, hsent', houtcomes'⟩

@[simp] theorem run_append (w : World) (earlier later : List Action) :
    w.run (earlier ++ later) =
      (((w.run earlier).1.run later).1,
        (w.run earlier).2 ++ ((w.run earlier).1.run later).2) := by
  induction earlier generalizing w with
  | nil => rfl
  | cons action earlier ih =>
    rw [List.cons_append, run_cons, ih, run_cons]
    rfl

@[simp] theorem length_events (w : World) (actions : List Action) :
    (w.run actions).2.length = actions.length := by
  induction actions generalizing w with
  | nil => rfl
  | cons action actions ih =>
    rw [run_cons, List.length_cons, List.length_cons, ih]

theorem Serves.getElem?_events (h : Serves settings load w) (earlier later : List Action)
    (action : Action) :
    (w.run (earlier ++ action :: later)).2[earlier.length]? =
      some (action.eventOf settings load.rules (w.channel.outcomes.getD
        (requestsOf settings.nodeId earlier).length (.failure Channel.exhausted))) := by
  obtain ⟨hserves, -, houtcomes⟩ := h.run earlier
  have hnext : (w.run earlier).1.channel.next = w.channel.outcomes.getD
      (requestsOf settings.nodeId earlier).length (.failure Channel.exhausted) := by
    unfold Channel.next
    rw [houtcomes, List.headD_eq_head?_getD, List.head?_drop, List.getD_eq_getElem?_getD]
  rw [run_append, ← length_events w earlier, List.getElem?_append_right (Nat.le_refl _),
    Nat.sub_self, run_cons, List.getElem?_cons_zero, (hserves.step action).2.2.2, hnext]

/-- Opening a session sends nothing. Whatever is done with it afterwards, it sends the request of
each operation once and in order, and each event is that of its own action. Every operation has a
request, unless the number of the node is in it and has no text. A panel error names the endpoint of
its operation and the address of its own answer, and other errors come from what is listed by
`Operation.Breaks` and from nothing else. -/
theorem events_of_start {files : Tree} {settings : Settings} {load : RuleLoad}
    {logs : List LogRecord} (debug : Bool) (outcomes : List Outcome)
    (hload : RuleLoad.ofOption files (settings.ruleListPath.map Path.toText) = .ok (load, logs)) :
    ∃ w, start files settings debug outcomes = .ok w ∧ w.channel.sent = [] ∧
      (∀ actions, (w.run actions).1.channel.sent =
        (requestsOf settings.nodeId actions).map .request) ∧
      (∀ operation : Operation, (∃ r, operation.request settings.nodeId = .ok r) ↔
        (operation.namesNode = true → HasText settings.nodeId)) ∧
      (∀ earlier action later, (w.run (earlier ++ action :: later)).2[earlier.length]? =
        some (action.eventOf settings load.rules (outcomes.getD
          (requestsOf settings.nodeId earlier).length (.failure Channel.exhausted)))) ∧
      ∀ (operation : Operation) (outcome : Outcome),
        (∀ error, operation.resultOf settings load.rules outcome = .error (.panel error) →
          error.path = operation.endpoint.path ∧
            error.url = outcome.ascribedUrl settings.apiHost operation.endpoint.path) ∧
        ∀ escape, operation.resultOf settings load.rules outcome = .error (.escape escape) ↔
          operation.Breaks settings outcome escape := by
  refine ⟨_, start_eq hload, rfl, ?_, ?_, ?_, ?_⟩
  · intro actions
    exact (Serves.run ⟨rfl, rfl, debug, rfl⟩ actions).2.1
  · intro operation
    exact Operation.exists_request_iff
  · intro earlier action later
    exact Serves.getElem?_events ⟨rfl, rfl, debug, rfl⟩ earlier later action
  · intro operation outcome
    exact ⟨fun _ => Operation.place_of_resultOf, fun _ => Operation.resultOf_eq_escape_iff load.rules⟩

end

attribute [local instance] Machine.usual

/-- A request that fails and a rule file that is gone later leave the rules of a session alone. -/
theorem events_of_rule_file :
    ∃ files settings load logs w,
      RuleLoad.ofOption files (settings.ruleListPath.map Path.toText) = .ok (load, logs) ∧
      start files settings false [.failure ⟨.timeout, "late"⟩, .answer ⟨200, acceptedBody, [], none⟩] =
        .ok w ∧
      ∃ result, (w.run [.perform .nodeRules, .changeFiles .empty, .perform .nodeRules]).2[2]? =
          some (.result result) ∧
        result.toOption = some (.rules [⟨-1, "a"⟩]) := by
  obtain ⟨w, hstart, -, -, -, hevents, -⟩ :=
    @events_of_start _ (Tree.empty.place (Path.ofText "r") (.file (Utf8.encodeWide "a\n")))
      ⟨"h", "k", 1, "V2ray", .zero, 3, .zero, 0, some (Path.ofText "r"), false, false⟩
      ⟨[⟨-1, "a"⟩], none⟩ _ false
      [.failure ⟨.timeout, "late"⟩, .answer ⟨200, acceptedBody, [], none⟩] rfl
  have hevent := hevents [.perform .nodeRules, .changeFiles .empty] (.perform .nodeRules) []
  exact ⟨_, _, _, _, w, rfl, hstart, _, hevent, by decide +kernel⟩

end World

end NodePanel
