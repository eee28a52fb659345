import NodePanel.Proofs.Panel.Envelope
import NodePanel.Proofs.Panel.SpeedLimit
import NodePanel.Proofs.Session.Operation
import NodePanel.Proofs.Settings.Fields

/-!
How an operation can fail otherwise than with an error of the panel. `Breaks` lists the ways: the
number of the node has no text, an answer or an error has none, or a limit of speed that was accepted
with the settings has no value in octets. Nothing else that is read of accepted data can fail; in
particular a header that was read with its body has a text.
-/
namespace NodePanel

/-- An answer that gives data. -/
def Answer.IsAccepted [Machine] (a : Answer) : Prop :=
  a.status < 400 ∧ ∃ fields, Json.ofOctets? a.body = some (.obj fields) ∧
    Envelope.HasCode (.obj fields) (some 200) ∧
    ∀ v, Envelope.StatusField (.obj fields) "message" v → v.depth ≤ Machine.messageLimit

namespace Session

theorem openOver_eq_ok_iff {files : Tree} {settings : Settings} (transport : Transport)
    {session : Session} {logs : List LogRecord} :
    openOver files settings transport = .ok (session, logs) ↔
      ∃ load, RuleLoad.ofOption files (settings.ruleListPath.map Path.toText) = .ok (load, logs) ∧
        session = ⟨settings, load, transport⟩ := by
  unfold openOver
  rw [Result.bind_eq_ok_iff]
  constructor
  · rintro ⟨⟨load, logs'⟩, hload, h⟩
    cases h
    exact ⟨load, Result.mapError_eq_ok_iff.1 hload, rfl⟩
  · rintro ⟨load, hload, rfl⟩
    exact ⟨(load, logs), Result.mapError_eq_ok_iff.2 hload, rfl⟩

variable [Machine]

theorem exists_datas_iff (path url : Text) (outcome : Outcome) :
    (∃ datas, (deliveryOf outcome.received).datas path url = .ok datas) ↔
      ∃ a, outcome = .answer a ∧ a.IsAccepted := by
  constructor
  · rintro ⟨datas, hdatas⟩
    obtain ⟨hending, hescape⟩ := Delivery.outcome_of_datas_eq_ok hdatas
    cases outcome with
    | failure e => cases hending
    | answer a =>
      refine ⟨a, rfl, ?_⟩
      cases hending with
      | opened hstatus hbody hcode =>
        refine ⟨hstatus, _, hbody, hcode, fun v hfield => ?_⟩
        exact Nat.not_lt.1 fun hdeep => hescape _ (.message hstatus hbody hfield hdeep)
  · rintro ⟨a, rfl, hstatus, fields, hbody, hcode, hmessage⟩
    let response : Response := ⟨a.status, a.body, a.url⟩
    have hopened : Delivery.Outcome path url (.answered response) _ := .opened hstatus hbody hcode
    refine ⟨_, Delivery.datas_of_outcome hopened fun escape hescape => ?_⟩
    cases hescape with
    | status herror => exact absurd hstatus (Int.not_lt.2 herror)
    | message _ htree hfield hdeep =>
      cases hbody.symm.trans htree
      exact Nat.not_le.2 hdeep (hmessage _ hfield)

theorem isAccepted_iff (a : Answer) :
    (∃ datas, (Delivery.answered ⟨a.status, a.body, a.url⟩).datas [] [] = .ok datas) ↔
      a.IsAccepted := by
  refine (exists_datas_iff [] [] (.answer a)).trans ?_
  constructor
  · rintro ⟨a', ha, h⟩
    cases ha
    exact h
  · intro h
    exact ⟨a, rfl, h⟩

instance : DecidablePred Answer.IsAccepted := fun a =>
  match h : (Delivery.answered ⟨a.status, a.body, a.url⟩).datas [] [] with
  | .ok datas => .isTrue ((isAccepted_iff a).1 ⟨datas, h⟩)
  | .error _ => .isFalse fun ha => by
    obtain ⟨datas, hdatas⟩ := (isAccepted_iff a).2 ha
    rw [h] at hdatas
    contradiction

/-- The header of a node lies two levels inside the body that was read. -/
theorem depth_header_of_datas {path url : Text} {outcome : Outcome} {datas v : Json}
    (h : (deliveryOf outcome.received).datas path url = .ok datas)
    (hheader : datas.get? "header" = some v) : v.depth ≤ Machine.headerLimit := by
  obtain ⟨hending, -⟩ := Delivery.outcome_of_datas_eq_ok h
  cases outcome with
  | failure e => cases hending
  | answer a =>
    cases hending with
    | @opened _ fields _ hbody _ =>
      have hbody := (Json.fitsLimits_of_ofOctets? hbody).depth_le
      cases hdatas : fields.get? "datas" with
      | none =>
        rw [hdatas] at hheader
        contradiction
      | some datas =>
        rw [hdatas] at hheader
        have houter : datas.depth < Json.depth (.obj fields) := Json.depth_lt_of_get? hdatas
        have hinner : v.depth < datas.depth := Json.depth_lt_of_get? hheader
        have hlimit := Machine.bodyLimit_le
        omega

end Session

namespace Operation

/-- What ends an operation in the place of a reply and of a panel error, and when: the number of the
node has no text, the answer or its error has none, or the users of an accepted answer would need a
limit of speed that has no value. -/
inductive Breaks [Machine] (settings : Settings) : Operation → Outcome → Escape → Prop where
  | node {operation : Operation} (outcome : Outcome) (hnames : operation.namesNode = true)
    (h : ¬ HasText settings.nodeId) : Breaks settings operation outcome .digits
  | delivery {operation : Operation} {outcome : Outcome} {escape : Escape}
    (hnode : operation.namesNode = true → HasText settings.nodeId)
    (h : (Session.deliveryOf outcome.received).Escapes escape) :
    Breaks settings operation outcome escape
  | speedLimit {a : Answer} {error : IntegerError} (hnode : HasText settings.nodeId)
    (h : a.IsAccepted) (hlimit : speedLimitBytes settings.speedLimit = .error error) :
    Breaks settings .userList (.answer a) (.speedLimit error)

theorem listOfDatas_eq_error_iff (datas : Json) (mbps : Binary64) (deviceLimit : Int)
    (e : IntegerError) :
    User.listOfDatas datas mbps deviceLimit = .error e ↔ speedLimitBytes mbps = .error e := by
  unfold User.listOfDatas
  cases speedLimitBytes mbps with
  | error e' => exact ⟨fun h => congrArg _ (Except.error.inj h), fun h => by cases h; rfl⟩
  | ok n => exact iff_of_false nofun nofun

variable [Machine] {settings : Settings} (rules : List Rule) {operation : Operation}
  {outcome : Outcome} {escape : Escape}

theorem read_eq_error_iff {datas : Json}
    (hheader : ∀ v, datas.get? "header" = some v → v.depth ≤ Machine.headerLimit) :
    operation.read settings rules datas = .error escape ↔
      operation = .userList ∧
        ∃ error, speedLimitBytes settings.speedLimit = .error error ∧ .speedLimit error = escape := by
  cases operation with
  | userList =>
    show ((User.listOfDatas datas settings.speedLimit settings.deviceLimit).mapError
      Escape.speedLimit).map Reply.users = _ ↔ _
    rw [Result.map_eq_error_iff, Result.mapError_eq_error_iff, and_iff_right rfl]
    simp only [listOfDatas_eq_error_iff]
  | nodeInfo =>
    have hall : (datas.get? "header").all (·.depth ≤ Machine.headerLimit) = true := by
      simpa [Option.all_eq_true] using hheader
    have hread : (NodeInfo.read datas settings.nodeType settings.nodeId settings.enableVless).map
        Reply.node = .ok _ := congrArg (Except.map Reply.node) (if_pos hall)
    refine iff_of_false (fun h => ?_) nofun
    exact nomatch hread.symm.trans h
  | _ => exact iff_of_false nofun nofun

theorem opened_eq_escape_iff :
    operation.opened settings rules outcome = .error (.escape escape) ↔
      (Session.deliveryOf outcome.received).Escapes escape ∨
        operation = .userList ∧ (∃ a, outcome = .answer a ∧ a.IsAccepted) ∧
          ∃ error, speedLimitBytes settings.speedLimit = .error error ∧
            .speedLimit error = escape := by
  unfold opened
  rw [Result.bind_eq_error_iff, ← Session.exists_datas_iff operation.endpoint.path
    (outcome.ascribedUrl settings.apiHost operation.endpoint.path)]
  refine or_congr ⟨Delivery.escapes_of_datas, fun h => Delivery.datas_of_escapes h _ _⟩ ?_
  constructor
  · rintro ⟨datas, hdatas, hread⟩
    obtain ⟨e, he, hescape⟩ := Result.mapError_eq_error_iff.1 hread
    cases hescape
    have hfail := (read_eq_error_iff rules fun v => Session.depth_header_of_datas hdatas).1 he
    exact ⟨hfail.1, ⟨datas, hdatas⟩, hfail.2⟩
  · rintro ⟨hoperation, ⟨datas, hdatas⟩, hlimit⟩
    have hfail := (read_eq_error_iff rules fun v => Session.depth_header_of_datas hdatas).2
      ⟨hoperation, hlimit⟩
    exact ⟨datas, hdatas, Result.mapError_eq_error_iff.2 ⟨escape, hfail, rfl⟩⟩

theorem exists_opened_nodeInfo (settings : Settings) {a : Answer} (h : a.IsAccepted) :
    ∃ reply, nodeInfo.opened settings rules (.answer a) = .ok reply := by
  obtain ⟨datas, hdatas⟩ := (Session.exists_datas_iff Endpoint.nodeInfo.path
    ((Outcome.answer a).ascribedUrl settings.apiHost Endpoint.nodeInfo.path) (.answer a)).2
    ⟨a, rfl, h⟩
  cases hread : nodeInfo.read settings rules datas with
  | ok reply =>
    exact ⟨reply, Result.bind_eq_ok_iff.2 ⟨datas, hdatas, Result.mapError_eq_ok_iff.2 hread⟩⟩
  | error escape =>
    have hfail := (read_eq_error_iff rules fun v => Session.depth_header_of_datas hdatas).1 hread
    exact nomatch hfail.1

theorem opened_failure_ne_ok {error : SendError} {reply : Reply} :
    operation.opened settings rules (.failure error) ≠ .ok reply := fun h =>
  have ⟨datas, hdatas, _⟩ := Result.bind_eq_ok_iff.1 h
  have ⟨_, ha, _⟩ := (Session.exists_datas_iff _ _ (.failure error)).1 ⟨datas, hdatas⟩
  nomatch ha

theorem resultOf_eq_escape_iff :
    operation.resultOf settings rules outcome = .error (.escape escape) ↔
      Breaks settings operation outcome escape := by
  cases hr : operation.request settings.nodeId with
  | error e =>
    obtain ⟨hnames, hno, rfl⟩ := request_eq_error_iff.1 hr
    rw [resultOf_of_no_request hr]
    constructor
    · intro h
      cases h
      exact .node outcome hnames hno
    · intro h
      cases h with
      | node => rfl
      | delivery hnode => exact absurd (hnode hnames) hno
      | speedLimit hnode => exact absurd hnode hno
  | ok r =>
    have hnode := exists_request_iff.1 ⟨r, hr⟩
    rw [resultOf_of_request hr, opened_eq_escape_iff]
    constructor
    · rintro (hescape | ⟨rfl, ⟨a, rfl, ha⟩, error, hlimit, rfl⟩)
      · exact .delivery hnode hescape
      · exact .speedLimit (hnode rfl) ha hlimit
    · intro h
      cases h with
      | node _ hnames hno => exact absurd (hnode hnames) hno
      | delivery _ hescape => exact .inl hescape
      | speedLimit _ ha hlimit => exact .inr ⟨rfl, ⟨_, rfl, ha⟩, _, hlimit, rfl⟩

end Operation

namespace Session

section

variable [Machine]

theorem result_of_perform {s : Session} {debug : Bool} (h : s.transport = .injected debug)
    (c : Channel) (operation : Operation) :
    (s.perform c operation).2 = operation.resultOf s.settings s.localRules c.next := by
  cases hr : operation.request s.settings.nodeId with
  | error escape => rw [perform_of_no_request hr, Operation.resultOf_of_no_request hr]
  | ok r =>
    have hsend : s.transport.send c r = (c.afterRequest r, c.next.received) := by
      rw [h, Transport.send_injected]
    rw [perform_of_send hr hsend, Operation.resultOf_of_request hr]

/-- With accepted settings an operation gives a reply or a panel error, whatever its request comes
to, with these exceptions: the number of the node in its request has no text; the error of the
transport, the status of the answer or the message of its envelope has none; the answer is accepted,
but the limit of speed of the users overflows. -/
theorem perform_reply_or_panel_error_iff {files files' : Tree} {environment : Environment}
    {paths : List Text} {given : Keyed Json} {settings : Settings} {debug : Bool}
    {session : Session} {logs : List LogRecord}
    (hsettings : Settings.load files environment paths given = .ok settings)
    (hopen : openOver files' settings (.injected debug) = .ok (session, logs))
    (c : Channel) (operation : Operation) :
    ((∃ reply, (session.perform c operation).2 = .ok reply) ∨
        ∃ error, (session.perform c operation).2 = .error (.panel error)) ↔
      ¬ (operation.namesNode = true ∧ ¬ HasText settings.nodeId ∨
        (∃ escape, (deliveryOf c.next.received).Escapes escape) ∨
        operation = .userList ∧ settings.speedLimit.Overflows 1000000 ∧
          ∃ a, c.next = .answer a ∧ a.IsAccepted) := by
  obtain ⟨found, -, hfields⟩ := Settings.load_eq_ok_iff.1 hsettings
  obtain ⟨load, -, rfl⟩ := (openOver_eq_ok_iff _).1 hopen
  have hspeed {e : IntegerError} := speedLimitBytes_eq_error_iff hfields.isNonneg_speedLimit (e := e)
  have hbreaks : (operation.namesNode = true ∧ ¬ HasText settings.nodeId ∨
        (∃ escape, (deliveryOf c.next.received).Escapes escape) ∨
        operation = .userList ∧ settings.speedLimit.Overflows 1000000 ∧
          ∃ a, c.next = .answer a ∧ a.IsAccepted) ↔
      ∃ escape, operation.Breaks settings c.next escape := by
    by_cases hnode : operation.namesNode = true ∧ ¬ HasText settings.nodeId
    · exact iff_of_true (.inl hnode) ⟨_, .node _ hnode.1 hnode.2⟩
    · have hnode : operation.namesNode = true → HasText settings.nodeId := by
        simpa using hnode
      constructor
      · rintro (⟨hnames, hno⟩ | ⟨escape, hescape⟩ | ⟨rfl, hoverflow, a, ha, haccepted⟩)
        · exact absurd (hnode hnames) hno
        · exact ⟨escape, .delivery hnode hescape⟩
        · rw [ha]
          exact ⟨_, .speedLimit (hnode rfl) haccepted (hspeed.2 ⟨rfl, hoverflow⟩)⟩
      · rintro ⟨escape, h⟩
        generalize c.next = outcome at h
        cases h with
        | node _ hnames hno => exact absurd (hnode hnames) hno
        | delivery _ hescape => exact .inr (.inl ⟨escape, hescape⟩)
        | speedLimit _ ha hlimit => exact .inr (.inr ⟨rfl, (hspeed.1 hlimit).2, _, rfl, ha⟩)
  have hresult : (perform ⟨settings, load, .injected debug⟩ c operation).2 =
      operation.resultOf settings load.rules c.next := result_of_perform rfl c operation
  rw [hresult, hbreaks]
  simp only [← Operation.resultOf_eq_escape_iff load.rules]
  cases operation.resultOf settings load.rules c.next with
  | ok reply => exact iff_of_true (.inl ⟨reply, rfl⟩) nofun
  | error error =>
    cases error with
    | panel error => exact iff_of_true (.inr ⟨error, rfl⟩) nofun
    | escape e => exact iff_of_false nofun fun h => h ⟨e, rfl⟩

end

attribute [local instance] Machine.usual

def acceptedBody : Octets := Utf8.encodeWide "\x7b\"response\":\x7b\"code\":200\x7d\x7d"

/-- An infinite limit of speed is accepted, and then even an empty list of users is no reply. -/
theorem not_reply_of_infinite_speedLimit :
    ∃ settings session logs,
      Settings.load Tree.empty [] [] [("speed_limit", .float (.infinite false))] = .ok settings ∧
      openOver Tree.empty settings (.injected false) = .ok (session, logs) ∧
      ¬ ((∃ reply, (session.perform (.ofOutcomes [.answer ⟨200, acceptedBody, [], none⟩])
            .userList).2 = .ok reply) ∨
        ∃ error, (session.perform (.ofOutcomes [.answer ⟨200, acceptedBody, [], none⟩])
            .userList).2 = .error (.panel error)) := by
  refine ⟨_, _, _, rfl, rfl, ?_⟩
  rw [@perform_reply_or_panel_error_iff _ .empty .empty [] []
    [("speed_limit", .float (.infinite false))] _ false _ _ rfl rfl]
  exact not_not_intro (.inr (.inr ⟨rfl, trivial, _, rfl, by decide +kernel⟩))

end Session

end NodePanel
