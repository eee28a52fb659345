import NodePanel.Proofs.Command.Checkup
import NodePanel.Proofs.Number.Integer
import NodePanel.Proofs.Panel.Report

/-!
Reports of hits from the command line. Either every operand is a hit, and then the report of all of
them is the one request that is sent, or the first that is none ends the command before there is a
session.
-/
namespace NodePanel

/-! Hits as they are typed -/

namespace Hit

/-- A text that spells a hit: two integers, and the first colon between them. -/
def Spells (t : Text) (hit : Hit) : Prop :=
  ∃ before after, t = before ++ CodePoint.ofChar ':' :: after ∧ CodePoint.ofChar ':' ∉ before ∧
    Text.toInt? before = some hit.uid ∧ Text.toInt? after = some hit.ruleId

theorem ofText_eq_ok_iff {t : Text} {hit : Hit} : ofText t = .ok hit ↔ Spells t hit := by
  unfold ofText Spells
  constructor
  · intro h
    split at h
    next => contradiction
    next before after hcut =>
      obtain ⟨ht, hcolon⟩ := Text.cut?_eq_some_iff.1 hcut
      split at h
      next uid ruleId huid hrule =>
        cases h
        exact ⟨before, after, ht, hcolon, huid, hrule⟩
      next => contradiction
  · rintro ⟨before, after, ht, hcolon, huid, hrule⟩
    rw [Text.cut?_eq_some_iff.2 ⟨ht, hcolon⟩]
    dsimp only
    rw [huid, hrule]

private theorem Spells.isWritable {t : Text} {hit : Hit} (h : Spells t hit) :
    HasText hit.uid ∧ HasText hit.ruleId := by
  obtain ⟨before, after, -, -, huid, hrule⟩ := h
  exact ⟨Text.hasText_of_toInt? huid, Text.hasText_of_toInt? hrule⟩

theorem isWritable_of_spelled {operands : List Text} {hits : List Hit}
    (h : List.Forall₂ Spells operands hits) : ∀ hit ∈ hits, wireForm.IsWritable hit := by
  induction h with
  | nil => exact List.forall_mem_nil _
  | cons hspells _ ih => exact List.forall_mem_cons.2 ⟨hspells.isWritable, ih⟩

private theorem ofText_ofInt {uid ruleId : Int} (huid : HasText uid) (hrule : HasText ruleId) :
    ofText (Text.ofInt uid ++ CodePoint.ofChar ':' :: Text.ofInt ruleId) = .ok ⟨uid, ruleId⟩ := by
  have hcolon : CodePoint.ofChar ':' ∉ Text.ofInt uid := by
    intro hmem
    rcases Coercion.mem_ofInt hmem with hminus | hdigit
    · exact absurd hminus (by decide)
    · contradiction
  exact ofText_eq_ok_iff.2
    ⟨_, _, rfl, hcolon, Text.toInt?_ofInt huid, Text.toInt?_ofInt hrule⟩

end Hit

/-! The request of a command -/

namespace Terminal

/-- The console can write what there is to say about the local rules. -/
def TellsRules (t : Terminal) (settings : Settings) : Prop :=
  ∀ load logs, RuleLoad.ofOption t.files (settings.ruleListPath.map Path.toText) = .ok (load, logs) →
    ∀ warning ∈ load.warning,
      t.console.writes (.markup (Invocation.warningMarkup warning)) = true

/-- With the settings and the files of a terminal, an operation makes a request on the wire. -/
def Sends [Machine] (t : Terminal) (operation : Operation) (wire : WireRequest) : Prop :=
  ∃ settings client r, t.loadSettings = .ok settings ∧
    RuleLoad.IsLoadable (settings.ruleListPath.map Path.toText) ∧ t.TellsRules settings ∧
    HttpClient.create settings [] = .ok client ∧ operation.request settings.nodeId = .ok r ∧
    client.prepare r = .ok wire

def warningsOf (load : RuleLoad) : List Printed :=
  load.warning.toList.map fun w => .markup (Invocation.warningMarkup w)

theorem takes_warningsOf_iff {t : Terminal} {load : RuleLoad} : t.Takes (warningsOf load) ↔
    ∀ warning ∈ load.warning,
      t.console.writes (.markup (Invocation.warningMarkup warning)) = true := by
  unfold Takes warningsOf
  simp only [List.forall_mem_map, Option.mem_toList]
  refine forall₂_congr fun warning _ => ?_
  rw [Console.fault?_eq_none_iff]
  refine and_iff_right fun text htext => ?_
  rw [List.mem_singleton.1 htext]
  exact Invocation.takesMarkup_warningMarkup t.console warning

end Terminal

namespace HttpClient

private theorem of_prepare {client : HttpClient} {r : Request} {wire : WireRequest}
    (h : client.prepare r = .ok wire) :
    wire.method = r.method ∧ ∃ body, bodyFor r.body = .ok body ∧
      wire.contentType = body.map (fun _ => jsonType) ∧ wire.body = body.getD [] := by
  obtain ⟨url, -, h⟩ := Result.bind_eq_ok_iff.1 h
  obtain ⟨body, hbody, h⟩ := Result.bind_eq_ok_iff.1 h
  obtain ⟨_, -, h⟩ := Result.bind_eq_ok_iff.1 h
  cases h
  exact ⟨rfl, body, hbody, rfl, rfl⟩

private theorem encode_of_bodyFor {items : List Json} {body : Option Octets}
    (h : bodyFor (.arr items) = .ok body) :
    ∃ octets, body = some octets ∧ Utf8.encode (Json.write .compact (.arr items)) = .ok octets := by
  unfold bodyFor at h
  dsimp only at h
  split at h
  next => contradiction
  next =>
    split at h
    next octets hoctets =>
      cases h
      exact ⟨octets, rfl, hoctets⟩
    next => contradiction

end HttpClient

namespace Session

variable [Machine] {s : Session} {client : HttpClient} {debug : Bool} {operation : Operation}
  (h : s.transport = .owned client debug false) {r : Request}
  (hr : operation.request s.settings.nodeId = .ok r) (c : Channel)

include h hr

theorem sent_perform {wire : WireRequest} (hwire : client.prepare r = .ok wire) :
    (s.perform c operation).1.sent = c.sent ++ [.wire wire] := by
  rw [perform_owned h hr hwire]
  rfl

private theorem sent_perform_of_error {error : SendError}
    (herror : client.prepare r = .error error) :
    (s.perform c operation).1.sent = c.sent := by
  rw [perform_of_prepare_eq_error h hr herror]
  rfl

end Session

namespace Invocation

private theorem debugged_eq (i : Invocation) (settings : Settings) (load : RuleLoad)
    (client : HttpClient) :
    (if i.debug then Session.setDebug ⟨settings, load, .owned client false false⟩ true
      else ⟨settings, load, .owned client false false⟩) =
        (⟨settings, load, .owned client i.debug false⟩ : Session) := by
  cases i.debug <;> rfl

section

variable [Machine] {t : Terminal} {operation : Operation}

theorem sent_perform (operation : Operation) (done : List Printed) (s : Session) (t : Terminal) :
    (perform operation done s t).1.channel.sent = (s.perform t.channel operation).1.sent := by
  unfold perform
  split <;> next heq => rw [heq]; first | rw [Terminal.channel_print_finish] | rfl

theorem withSession_eq (i : Invocation) {settings : Settings} {client : HttpClient} {load : RuleLoad}
    {logs : List LogRecord} (hsettings : t.loadSettings = .ok settings)
    (hclient : HttpClient.create settings [] = .ok client)
    (hload : RuleLoad.ofOption t.files (settings.ruleListPath.map Path.toText) = .ok (load, logs))
    (go : Session → Terminal → Terminal × Ending) :
    i.withSession t go = (t.log logs).print (Terminal.warningsOf load)
      (go ⟨settings, load, .owned client i.debug false⟩) := by
  have hopen := Session.openOwned_eq_ok_iff.2 ⟨client, load, hclient, hload, rfl⟩
  unfold withSession
  rw [hsettings]
  dsimp only
  rw [hopen]
  dsimp only
  rw [debugged_eq]
  rfl

private theorem sent_withSession (i : Invocation) (done : List Printed) {wire : WireRequest}
    (h : t.Sends operation wire) :
    (i.withSession t (perform operation done)).1.channel.sent = t.channel.sent ++ [.wire wire] := by
  obtain ⟨settings, client, r, hsettings, hrules, htells, hclient, hr, hwire⟩ := h
  obtain ⟨load, logs, hload⟩ := (@RuleLoad.exists_load_iff t.files _).2 hrules
  have htakes : (t.log logs).Takes (Terminal.warningsOf load) :=
    Terminal.takes_warningsOf_iff.2 (htells load logs hload)
  rw [withSession_eq i hsettings hclient hload, Terminal.print_of_takes htakes, sent_perform]
  exact Session.sent_perform rfl hr _ hwire

private theorem sent_withSession_of_not_sends (i : Invocation) (done : List Printed)
    (h : ¬ ∃ wire, t.Sends operation wire) :
    (i.withSession t (perform operation done)).1.channel.sent = t.channel.sent := by
  cases hsettings : t.loadSettings with
  | error error =>
    unfold withSession
    rw [hsettings]
    rfl
  | ok settings =>
    cases hopen : Session.openOwned t.files settings with
    | error error =>
      unfold withSession
      rw [hsettings]
      dsimp only
      rw [hopen]
      rfl
    | ok result =>
      obtain ⟨client, load, hclient, hload, -⟩ := Session.openOwned_eq_ok_iff.1 hopen
      rw [withSession_eq i hsettings hclient hload]
      by_cases htakes : (t.log result.2).Takes (Terminal.warningsOf load)
      · rw [Terminal.print_of_takes htakes, sent_perform]
        cases hr : operation.request settings.nodeId with
        | error escape => rw [Session.perform_of_no_request hr]; rfl
        | ok r =>
          cases hprepare : client.prepare r with
          | error error => exact Session.sent_perform_of_error rfl hr _ hprepare
          | ok wire =>
            have hrules := RuleLoad.exists_load_iff.1 ⟨load, result.2, hload⟩
            have htells : t.TellsRules settings := fun load' logs' hload' => by
              cases hload.symm.trans hload'
              exact Terminal.takes_warningsOf_iff.1 htakes
            exact absurd ⟨wire, settings, client, r, hsettings, hrules, htells, hclient, hr, hprepare⟩ h
      · obtain ⟨front, back, error, -, -, hprint⟩ := Terminal.print_of_not_takes htakes _
        rw [hprint]
        rfl

end

/-! Operands that are hits -/

theorem readHit_eq_ok_iff {operand : Text} {hit : Hit} :
    readHit operand = .ok hit ↔ Hit.Spells operand hit :=
  Result.mapError_eq_ok_iff.trans Hit.ofText_eq_ok_iff

theorem mapM_readHit_eq_ok_iff {operands : List Text} {hits : List Hit} :
    operands.mapM readHit = .ok hits ↔ List.Forall₂ Hit.Spells operands hits := by
  simp only [Result.mapM_eq_ok_iff, readHit_eq_ok_iff]

private theorem exists_of_not_spelled {operands : List Text}
    (h : ¬ ∃ hits, List.Forall₂ Hit.Spells operands hits) :
    ∃ front operand back, operands = front ++ operand :: back ∧
      (∀ word ∈ front, ∃ hit, Hit.Spells word hit) ∧ (¬ ∃ hit, Hit.Spells operand hit) ∧
      operands.mapM readHit = .error (.badOperand operand) := by
  simp only [← mapM_readHit_eq_ok_iff, ← readHit_eq_ok_iff] at h ⊢
  cases hread : operands.mapM readHit with
  | ok hits => exact absurd ⟨hits, hread⟩ h
  | error error =>
    obtain ⟨front, operand, back, hsplit, hfront, hoperand⟩ := Result.exists_of_mapM_eq_error hread
    have herror : error = .badOperand operand := by
      unfold readHit at hoperand
      cases htext : Hit.ofText operand with
      | ok hit =>
        rw [htext] at hoperand
        contradiction
      | error e =>
        rw [htext] at hoperand
        exact (Except.error.inj hoperand).symm
    refine ⟨front, operand, back, hsplit, hfront, ?_, congrArg Except.error herror⟩
    rintro ⟨hit, hhit⟩
    rw [hhit] at hoperand
    contradiction

private theorem purposeOf_reportIllegal {line operands : List Text}
    (h : Arguments.Words line operands)
    (hne : operands ≠ []) :
    purposeOf .reportIllegal line =
      (operands.mapM readHit).map fun hits => .run (.reportIllegal hits) := by
  show readRest [] line readHits = _
  have hcommandless : commandless? ⟨[], operands⟩ = none := rfl
  unfold readRest
  rw [h.ofList_eq]
  simp only [bind, Except.bind, hcommandless, readHits, List.isEmpty_eq_false_iff.2 hne]
  cases operands.mapM readHit <;> rfl

end Invocation

/-! The report -/

def Hit.listJson (hits : List Hit) : Json :=
  .arr (hits.map fun hit => .obj [("id", .int hit.ruleId), ("uid", .int hit.uid)])

/-- The request is the report of some hits: its body is the text of their records, and is read as
these. -/
structure WireRequest.IsReportOf [Machine] (wire : WireRequest) (hits : List Hit) : Prop where
  method_eq : wire.method = .post
  contentType_eq : wire.contentType = some HttpClient.jsonType
  body_eq : Utf8.encode ((Hit.listJson hits).write .compact) = .ok wire.body
  read_eq : Json.ofText? ((Hit.listJson hits).write .compact) = some (Hit.listJson hits)

private theorem Terminal.Sends.isReportOf [Machine] {t : Terminal} {hits : List Hit}
    {wire : WireRequest}
    (h : t.Sends (.reportIllegal hits) wire) (hwritable : ∀ hit ∈ hits, Hit.wireForm.IsWritable hit) :
    wire.IsReportOf hits := by
  obtain ⟨settings, client, r, -, -, -, -, hr, hwire⟩ := h
  obtain ⟨-, rfl⟩ := Operation.request_eq_ok_iff.1 hr
  obtain ⟨hmethod, body, hbody, htype, hoctets⟩ := HttpClient.of_prepare hwire
  obtain ⟨octets, rfl, hencode⟩ := HttpClient.encode_of_bodyFor hbody
  refine ⟨hmethod, htype, ?_, Hit.wireForm.ofText?_list Json.Style.isStandard_compact hwritable⟩
  rw [hoctets]
  exact hencode

theorem Settings.IsPlain.exists_sends [Machine] {t : Terminal} {settings : Settings} {u : Url}
    (h : settings.IsPlain u) (hfits : u.Fits settings.nodeId)
    (hsettings : t.loadSettings = .ok settings)
    (hrules : RuleLoad.IsLoadable (settings.ruleListPath.map Path.toText))
    (htells : t.TellsRules settings) {hits : List Hit}
    (hwritable : ∀ hit ∈ hits, Hit.wireForm.IsWritable hit) :
    ∃ wire, t.Sends (.reportIllegal hits) wire ∧
      wire.url.path = Url.requestPath (Url.normalizePath u.path) .illegal ∧
      wire.url.query = some (Url.nodeText settings.nodeId) := by
  have hsendable : (Operation.reportIllegal hits).IsSendable := hwritable
  have hrequest : ∃ r, (Operation.reportIllegal hits).request settings.nodeId = .ok r :=
    Operation.exists_request_iff.2 fun _ => Settings.hasText_nodeId_of_load hsettings
  obtain ⟨r, hr⟩ := hrequest
  obtain ⟨client, hclient, hbase⟩ := h.exists_base hfits
  obtain ⟨wire, hwire, -, hpath, hquery⟩ :=
    HttpClient.exists_prepare hbase hsendable hr (hfits.path .illegal) hfits.query
  refine ⟨wire, ⟨settings, client, r, hsettings, hrules, htells, hclient, hr, hwire⟩, hpath, ?_⟩
  rw [hquery, ← (Operation.request_eq_ok_iff.1 hr).2]
  rfl

section

open Invocation

variable [Machine]

/-- All operands are reported or none. If every operand spells a hit, the request that can be made for
the hits, in their order, is the one request that is sent; to a plain address one can always be made.
If an operand spells no hit, the first such operand is named, and nothing else happens. Any two
integers that have a text are read from it. -/
theorem Hit.report_of_operands {t : Terminal} {front line operands : List Text}
    (hfront : ∀ word ∈ front, word ∈ flags) (hwords : Arguments.Words line operands)
    (hne : operands ≠ []) :
    let i := ofLine (front ++ Text.ofString "report-illegal" :: line)
    (∀ hits, List.Forall₂ Hit.Spells operands hits →
      (∀ wire, t.Sends (.reportIllegal hits) wire → wire.IsReportOf hits ∧
        (i.run t).1.channel.sent = t.channel.sent ++ [.wire wire]) ∧
      ((¬ ∃ wire, t.Sends (.reportIllegal hits) wire) →
        (i.run t).1.channel.sent = t.channel.sent) ∧
      ∀ settings u, t.loadSettings = .ok settings → settings.IsPlain u → u.Fits settings.nodeId →
        RuleLoad.IsLoadable (settings.ruleListPath.map Path.toText) → t.TellsRules settings →
        ∃ wire, t.Sends (.reportIllegal hits) wire ∧
          wire.url.path = Url.requestPath (Url.normalizePath u.path) .illegal ∧
          wire.url.query = some (Url.nodeText settings.nodeId)) ∧
    ((¬ ∃ hits, List.Forall₂ Hit.Spells operands hits) → i.run t = (t, .misused) ∧
      ∃ before operand after, operands = before ++ operand :: after ∧
        (∀ word ∈ before, ∃ hit, Hit.Spells word hit) ∧ (¬ ∃ hit, Hit.Spells operand hit) ∧
        i.purpose = .error (.badOperand operand)) ∧
    ∀ uid ruleId, HasText uid → HasText ruleId →
      Hit.ofText (Text.ofInt uid ++ CodePoint.ofChar ':' :: Text.ofInt ruleId) =
        .ok ⟨uid, ruleId⟩ := by
  obtain ⟨verbose, debug, hline⟩ := exists_ofLine_eq hfront .reportIllegal line
  have hpurpose := purposeOf_reportIllegal hwords hne
  have hi : ofLine (front ++ Text.ofString "report-illegal" :: line) =
      ⟨verbose, debug, (operands.mapM readHit).map fun hits => .run (.reportIllegal hits)⟩ :=
    hline.trans (congrArg (Invocation.mk verbose debug) hpurpose)
  dsimp only
  rw [hi]
  refine ⟨fun hits hhits => ?_, fun hbad => ?_, fun uid ruleId => Hit.ofText_ofInt⟩
  · rw [mapM_readHit_eq_ok_iff.2 hhits]
    refine ⟨fun wire hwire => ⟨hwire.isReportOf (Hit.isWritable_of_spelled hhits), ?_⟩,
      fun hnot => ?_, fun settings u hsettings hplain hfits hrules htells => ?_⟩
    · exact sent_withSession _ _ hwire
    · exact sent_withSession_of_not_sends _ _ hnot
    · exact hplain.exists_sends hfits hsettings hrules htells (Hit.isWritable_of_spelled hhits)
  · obtain ⟨before, operand, after, hsplit, hspelled, hoperand, hread⟩ := exists_of_not_spelled hbad
    rw [hread]
    exact ⟨rfl, before, operand, after, hsplit, hspelled, hoperand, rfl⟩

end

instance (t : Text) (hit : Hit) : Decidable (Hit.Spells t hit) :=
  decidable_of_iff _ Hit.ofText_eq_ok_iff

attribute [local instance] Machine.usual

theorem tellsRules_keyHolder (outcomes : List Outcome) :
    (keyHolder "k" outcomes).TellsRules (keySettings "k") := fun _ _ _ _ _ => rfl

open Invocation in
/-- Blanks, signs, zeros and underscores are read, and behind the mark a hit may begin with a dash.
After good hits a bad one stops all of them. -/
theorem Hit.report_of_two_lines :
    (∃ wire, (keyHolder "k" []).Sends (.reportIllegal [⟨5, 3⟩, ⟨7, 1⟩, ⟨-5, 3⟩]) wire ∧
      ((ofLine ["-v", "report-illegal", "5:3", " +7 : 0_1 ", "--", "-5:3"]).run
        (keyHolder "k" [])).1.channel.sent = [.wire wire]) ∧
    (ofLine ["-v", "report-illegal", "5:3", "5:3:1", "7:1"]).run (keyHolder "k" []) =
      (keyHolder "k" [], .misused) := by
  have hfront : ∀ word ∈ [Text.ofString "-v"], word ∈ flags := by decide
  constructor
  · have hwords : Arguments.Words ["5:3", " +7 : 0_1 ", "--", "-5:3"] ["5:3", " +7 : 0_1 ", "-5:3"] :=
      .word (by decide) (.word (by decide) (.mark _))
    have hhits : List.Forall₂ Hit.Spells ["5:3", " +7 : 0_1 ", "-5:3"] [⟨5, 3⟩, ⟨7, 1⟩, ⟨-5, 3⟩] :=
      .cons (by decide +kernel) (.cons (by decide +kernel) (.cons (by decide +kernel) .nil))
    have hne : (["5:3", " +7 : 0_1 ", "-5:3"] : List Text) ≠ [] := List.cons_ne_nil _ _
    have hspelled := (@report_of_operands _ (keyHolder "k" []) _ _ _ hfront hwords hne).1
    obtain ⟨hsent, -, hplain⟩ := hspelled _ hhits
    obtain ⟨wire, hwire, -⟩ := hplain _ _ (loadSettings_keyHolder []) isPlain_keySettings
      fits_defaultUrl RuleLoad.isLoadable_none (tellsRules_keyHolder [])
    have hnone : (keyHolder "k" []).channel.sent = [] := rfl
    have hone := (hsent wire hwire).2
    rw [List.singleton_append, hnone, List.nil_append] at hone
    exact ⟨wire, hwire, hone⟩
  · have hwords : Arguments.Words ["5:3", "5:3:1", "7:1"] ["5:3", "5:3:1", "7:1"] :=
      .word (by decide) (.word (by decide) (.word (by decide) .done))
    have hne : (["5:3", "5:3:1", "7:1"] : List Text) ≠ [] := List.cons_ne_nil _ _
    have hbad := (@report_of_operands _ (keyHolder "k" []) _ _ _ hfront hwords hne).2.1
    have hnot : ¬ ∃ hits, List.Forall₂ Hit.Spells ["5:3", "5:3:1", "7:1"] hits := by
      rintro ⟨hits, hhits⟩
      rcases hhits with _ | ⟨-, _ | ⟨hsecond, -⟩⟩
      have hread : Hit.ofText "5:3:1" = .error (.noIntegers "5:3:1") := by decide +kernel
      rw [Hit.ofText_eq_ok_iff.2 hsecond] at hread
      contradiction
    exact (hbad hnot).1

/-- Someone whose rules cannot be read, at a console that can write nothing. -/
def muteHolder : Terminal :=
  { keyHolder "k" [] with
    environment := [("SAKURA_KEY", "k"), ("SAKURA_RULE_LIST_PATH", "r")]
    console := { Console.usual with writes := fun _ => false } }

open Invocation in
/-- A hit that begins with a dash is taken for a switch. A key that can be no header keeps a good report
from being sent, and so does a warning about the rules that cannot be written. -/
theorem Hit.no_report_of_dashed_hit :
    (Hit.Spells "-5:3" ⟨-5, 3⟩ ∧
      (∃ wire, (keyHolder "k" []).Sends (.reportIllegal [⟨-5, 3⟩]) wire) ∧
      (ofLine ["report-illegal", "-5:3"]).purpose = .error (.unknownSwitch "-5:3") ∧
      (ofLine ["report-illegal", "-5:3"]).run (keyHolder "k" []) = (keyHolder "k" [], .misused)) ∧
    Hit.Spells "5:3" ⟨5, 3⟩ ∧
      ((ofLine ["report-illegal", "5:3"]).run (keyHolder "é" [])).1.channel.sent = [] ∧
      ((ofLine ["report-illegal", "5:3"]).run muteHolder).1.channel.sent = [] := by
  have hwritable : ∀ hit ∈ [Hit.mk (-5) 3], Hit.wireForm.IsWritable hit := by
    simp only [List.forall_mem_cons]
    exact ⟨⟨by decide, by decide⟩, List.forall_mem_nil _⟩
  obtain ⟨wire, hwire, -⟩ := isPlain_keySettings.exists_sends fits_defaultUrl
    (loadSettings_keyHolder []) RuleLoad.isLoadable_none (tellsRules_keyHolder []) hwritable
  exact ⟨⟨by decide +kernel, ⟨wire, hwire⟩, by decide, rfl⟩, by decide +kernel, by decide +kernel,
    by decide +kernel⟩

end NodePanel
