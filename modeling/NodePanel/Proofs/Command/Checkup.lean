import NodePanel.Proofs.Command.Line
import NodePanel.Proofs.Command.Terminal
import NodePanel.Proofs.Session.Opening
import NodePanel.Proofs.Settings.Host

/-!
When the check of a session finds something out. An error of the panel is a finding, and so is a file
of rules that cannot be read. What is no finding is a host or a key of which no client can be made, a
name that no file can have, an answer that breaks the call, or a text that the console does not take:
then the check ends with an error.
-/
namespace NodePanel

namespace Checkup

def subjects : List Text :=
  ["API host", "Key", "Node", "Local rules", "Panel node_info"].map Text.ofString

/-- A session with these settings gets the configuration of the node. -/
def IsAnswered [Machine] (t : Terminal) (settings : Settings) : Prop :=
  ∃ session logs info, Session.openOwned t.files settings = .ok (session, logs) ∧
    (session.perform t.channel .nodeInfo).2 = .ok (.node info)

/-- A check that shows a finding for every subject, and whose ending says whether the panel has
answered. -/
inductive Diagnosed (t : Terminal) (answered : Prop) : Terminal × Ending → Prop where
  | passed {t' : Terminal} {findings : List Finding} (h : answered)
    (hsubjects : findings.map Finding.subject = subjects)
    (hprinted : t'.printed = t.printed ++ [.table (table findings)]) :
    Diagnosed t answered (t', .exit 0)
  | failed {t' : Terminal} {findings : List Finding} (h : ¬ answered)
    (hsubjects : findings.map Finding.subject = subjects)
    (hprinted : t'.printed = t.printed ++ [.table (table findings), .markup advice]) :
    Diagnosed t answered (t', .exit 1)

def findingsOf (settings : Settings) (load : RuleLoad) (result : Except PanelError NodeInfo) :
    List Finding :=
  [ofHost settings, ofKey settings, ofNode settings, ofRules settings.ruleListPath load,
    ofPanel result]

@[simp] theorem subject_findingsOf (settings : Settings) (load : RuleLoad)
    (result : Except PanelError NodeInfo) :
    (findingsOf settings load result).map Finding.subject = subjects := by
  have hkey : (ofKey settings).subject = Text.ofString "Key" := by
    unfold ofKey
    split <;> rfl
  have hrules : (ofRules settings.ruleListPath load).subject = Text.ofString "Local rules" := by
    unfold ofRules
    split <;> rfl
  have hpanel : (ofPanel result).subject = Text.ofString "Panel node_info" := by
    unfold ofPanel
    split <;> rfl
  simp only [findingsOf, List.map_cons, List.map_nil, hkey, hrules, hpanel]
  rfl

def shownOf (settings : Settings) (load : RuleLoad) (result : Except PanelError NodeInfo) :
    List Printed :=
  .table (table (findingsOf settings load result)) ::
    match result with
    | .ok _ => []
    | .error _ => [.markup advice]

/-- The answer for the check is a configuration or an error of the panel, and the console takes what
is printed about it. -/
def CanShow [Machine] (t : Terminal) (settings : Settings) : Prop :=
  ∀ session logs, Session.openOwned t.files settings = .ok (session, logs) →
    ∃ result : Except PanelError NodeInfo,
      (session.perform t.channel .nodeInfo).2 = (result.mapError .panel).map .node ∧
        t.Takes (shownOf settings session.load result)

theorem diagnosed_report_iff {t t' : Terminal} (hprinted : t'.printed = t.printed)
    (hconsole : t'.console = t.console) (settings : Settings) (load : RuleLoad)
    {result : Except PanelError NodeInfo} {answered : Prop}
    (hanswered : answered ↔ ∃ info, result = .ok info) :
    (Diagnosed t answered (report t' settings load result) ↔
      t.Takes (shownOf settings load result)) ∧
    (¬ t.Takes (shownOf settings load result) →
      ∃ error, (report t' settings load result).2 = .failure error) := by
  have htakes : t'.Takes (shownOf settings load result) ↔ t.Takes (shownOf settings load result) := by
    unfold Terminal.Takes
    rw [hconsole]
  have hreport : ∃ ending, report t' settings load result =
      t'.print (shownOf settings load result) (Terminal.finish ending) ∧
        ∀ printed, printed = t'.withPrinted (shownOf settings load result) →
          Diagnosed t answered (printed, ending) := by
    have hsubjects := subject_findingsOf settings load result
    cases result with
    | ok info =>
      refine ⟨.success, rfl, fun printed h => .passed (hanswered.2 ⟨info, rfl⟩) hsubjects ?_⟩
      rw [h, Terminal.withPrinted, hprinted]
      rfl
    | error error =>
      refine ⟨.failed, rfl, fun printed h => .failed (fun hand => ?_) hsubjects ?_⟩
      · obtain ⟨info, hinfo⟩ := hanswered.1 hand
        contradiction
      · rw [h, Terminal.withPrinted, hprinted]
        rfl
  obtain ⟨ending, hreport, hdiagnosed⟩ := hreport
  rw [hreport, ← htakes]
  by_cases h : t'.Takes (shownOf settings load result)
  · rw [Terminal.print_of_takes h]
    exact ⟨iff_of_true (hdiagnosed _ rfl) h, absurd h⟩
  · obtain ⟨front, back, error, -, -, hprint⟩ := Terminal.print_of_not_takes h (Terminal.finish ending)
    rw [hprint]
    exact ⟨iff_of_false (fun hdiagnosed => by cases hdiagnosed) h, fun _ => ⟨_, rfl⟩⟩

private theorem takesMarkup_of_takes {t : Terminal} {settings : Settings} {load : RuleLoad}
    {result : Except PanelError NodeInfo} (h : t.Takes (shownOf settings load result)) :
    t.console.takesMarkup (NodeInfo.caption settings.nodeId settings.nodeType) = true := by
  have htable := (Console.fault?_eq_none_iff.1 (h _ List.mem_cons_self)).1
  refine htable _ (List.mem_cons_of_mem _ (List.mem_append_right _ ?_))
  exact List.mem_flatten.2 ⟨(ofNode settings).row,
    List.mem_map_of_mem (List.mem_cons_of_mem _ (List.mem_cons_of_mem _ List.mem_cons_self)),
    List.mem_cons_of_mem _ (List.mem_cons_of_mem _ List.mem_cons_self)⟩

/-- Only what stands in brackets can be refused, or what cannot be written. -/
theorem takes_shownOf {t : Terminal} {settings : Settings} {load : RuleLoad}
    {result : Except PanelError NodeInfo}
    (h : ∀ finding ∈ findingsOf settings load result, Markup.opening ∉ finding.detail)
    (hwrites : ∀ shown ∈ shownOf settings load result, t.console.writes shown = true) :
    t.Takes (shownOf settings load result) := by
  intro shown hshown
  refine Console.fault?_eq_none_iff.2 ⟨fun text htext => ?_, hwrites shown hshown⟩
  have htable : shown = .table (table (findingsOf settings load result)) ∨ shown = .markup advice := by
    cases result with
    | ok info => exact .inl (List.mem_singleton.1 hshown)
    | error error =>
      rcases List.mem_cons.1 hshown with hshown | hshown
      · exact .inl hshown
      · exact .inr (List.mem_singleton.1 hshown)
  rcases htable with rfl | rfl
  · refine Console.takesMarkup_of_not_mem _ ?_
    rcases List.mem_cons.1 htext with rfl | htext
    · show Markup.opening ∉ Text.ofString "sakura-panel Doctor"
      decide
    rcases List.mem_append.1 htext with htext | htext
    · have hcolumns : ∀ column ∈ Table.columnsOf ["Check", "Status", "Details"],
          Markup.opening ∉ column := by decide
      exact hcolumns text htext
    obtain ⟨row, hrow, htext⟩ := List.mem_flatten.1 htext
    obtain ⟨finding, hfinding, rfl⟩ := List.mem_map.1 hrow
    simp only [Finding.row, List.mem_cons, List.not_mem_nil, or_false] at htext
    rcases htext with rfl | rfl | rfl
    · have hsubject := List.mem_map_of_mem hfinding (f := Finding.subject)
      rw [subject_findingsOf] at hsubject
      have hsubjects : ∀ subject ∈ subjects, Markup.opening ∉ subject := by decide
      exact hsubjects _ hsubject
    · cases finding.status <;> decide
    · exact h finding hfinding
  · rw [List.mem_singleton.1 htext]
    exact takesMarkup_advice t.console

section

variable [Machine] {t : Terminal} {settings : Settings}

/-- With a session, a check reports what the panel says, or ends where the call breaks. -/
theorem exists_run_eq (h : t.loadSettings = .ok settings) {session : Session} {logs : List LogRecord}
    (hopen : Session.openOwned t.files settings = .ok (session, logs)) :
    ∃ t' : Terminal, t'.printed = t.printed ∧ t'.console = t.console ∧
      (∀ result : Except PanelError NodeInfo,
        (session.askNodeInfo t.channel).2 = result.mapError .panel →
          run t = report t' settings session.load result) ∧
      ∀ escape, (session.askNodeInfo t.channel).2 = .error (.escape escape) →
        run t = t'.stop (.escape escape) := by
  obtain ⟨client, load, -, hload, hsession⟩ := Session.openOwned_eq_ok_iff.1 hopen
  obtain rfl : session.load = load := congrArg Session.load hsession
  have hlogs : (t.channel.logAll logs).logAll logs = t.channel.logAll (logs ++ logs) := by
    simp [Channel.logAll]
  have hasked : ∃ channel, session.askNodeInfo ((t.channel.logAll logs).logAll logs) =
      (channel, (session.askNodeInfo t.channel).2) := by
    rw [hlogs, ← session.askNodeInfo_logAll t.channel (logs ++ logs)]
    exact ⟨_, rfl⟩
  obtain ⟨channel, hasked⟩ := hasked
  refine ⟨{ t with channel }, rfl, rfl, fun result hresult => ?_, fun escape hescape => ?_⟩
  · rw [hresult] at hasked
    cases result <;> simp only [run, h, hload, Terminal.log, hopen, hasked, Result.mapError_ok,
      Result.mapError_error]
  · rw [hescape] at hasked
    simp only [run, h, hload, Terminal.log, hopen, hasked]

theorem run_of_not_openable (h : t.loadSettings = .ok settings) (hopenable : ¬ (settings.HasClient ∧
      RuleLoad.IsLoadable (settings.ruleListPath.map Path.toText))) :
    ∃ error, (run t).2 = .failure error ∧ (run t).1.printed = t.printed ∧
      (run t).1.channel.sent = t.channel.sent := by
  unfold run
  rw [h]
  dsimp only
  cases hload : RuleLoad.ofOption t.files (settings.ruleListPath.map Path.toText) with
  | error error => exact ⟨_, rfl, rfl, rfl⟩
  | ok result =>
    obtain ⟨load, logs⟩ := result
    dsimp only [Terminal.log]
    cases hopen : Session.openOwned t.files settings with
    | error error => exact ⟨_, rfl, rfl, rfl⟩
    | ok result => exact absurd ((Session.exists_openOwned_iff _).1 ⟨_, _, hopen⟩) hopenable

private theorem diagnosed_run_of_open (h : t.loadSettings = .ok settings) {session : Session}
    {logs : List LogRecord} (hopen : Session.openOwned t.files settings = .ok (session, logs)) :
    (Diagnosed t (IsAnswered t settings) (run t) ↔ CanShow t settings) ∧
      (¬ CanShow t settings → ∃ error, (run t).2 = .failure error) := by
  obtain ⟨t', hprinted, hconsole, hreport, hstop⟩ := exists_run_eq h hopen
  have hperform : (session.perform t.channel .nodeInfo).2 =
      (session.askNodeInfo t.channel).2.map .node := by rw [Session.perform_nodeInfo]
  have hshow {asked : Except CallError NodeInfo} (hasked : (session.askNodeInfo t.channel).2 = asked) :
      CanShow t settings ↔ ∃ result : Except PanelError NodeInfo, asked = result.mapError .panel ∧
        t.Takes (shownOf settings session.load result) := by
    subst hasked
    constructor
    · intro hshow
      obtain ⟨result, hresult, htakes⟩ := hshow session logs hopen
      rw [hperform] at hresult
      exact ⟨result, Result.map_injective (fun _ _ => Reply.node.inj) hresult, htakes⟩
    · rintro ⟨result, hresult, htakes⟩ session' logs' hopen'
      cases hopen.symm.trans hopen'
      exact ⟨result, by rw [hperform, hresult], htakes⟩
  have hanswered : IsAnswered t settings ↔ ∃ info, (session.askNodeInfo t.channel).2 = .ok info := by
    constructor
    · rintro ⟨session', logs', info, hopen', hinfo⟩
      cases hopen.symm.trans hopen'
      rw [hperform] at hinfo
      obtain ⟨info', hinfo', -⟩ := Result.map_eq_ok_iff.1 hinfo
      exact ⟨info', hinfo'⟩
    · rintro ⟨info, hinfo⟩
      exact ⟨session, logs, info, hopen, by rw [hperform, hinfo]; rfl⟩
  have hresult : (∃ result : Except PanelError NodeInfo,
      (session.askNodeInfo t.channel).2 = result.mapError .panel) ∨
      ∃ escape, (session.askNodeInfo t.channel).2 = .error (.escape escape) := by
    rcases (session.askNodeInfo t.channel).2 with (error | escape) | info
    · exact .inl ⟨.error error, rfl⟩
    · exact .inr ⟨escape, rfl⟩
    · exact .inl ⟨.ok info, rfl⟩
  rcases hresult with ⟨result, hresult⟩ | ⟨escape, hescape⟩
  · have hsame : CanShow t settings ↔ t.Takes (shownOf settings session.load result) := by
      rw [hshow hresult]
      constructor
      · rintro ⟨result', heq, htakes⟩
        rwa [Result.mapError_injective (fun _ _ => CallError.panel.inj) heq]
      · exact fun htakes => ⟨result, rfl, htakes⟩
    rw [hsame, hreport result hresult]
    refine diagnosed_report_iff hprinted hconsole settings session.load (hanswered.trans ?_)
    rw [hresult]
    simp only [Result.mapError_eq_ok_iff]
  · rw [hshow hescape, hstop escape hescape]
    refine ⟨iff_of_false (fun hdiagnosed => by cases hdiagnosed) ?_, fun _ => ⟨_, rfl⟩⟩
    rintro ⟨result | result, h, -⟩ <;> cases h

theorem diagnosed_run_iff (h : t.loadSettings = .ok settings) :
    (Diagnosed t (IsAnswered t settings) (run t) ↔ settings.HasClient ∧
      RuleLoad.IsLoadable (settings.ruleListPath.map Path.toText) ∧ CanShow t settings) ∧
    (¬ Diagnosed t (IsAnswered t settings) (run t) → ∃ error, (run t).2 = .failure error) := by
  by_cases hopenable : settings.HasClient ∧
      RuleLoad.IsLoadable (settings.ruleListPath.map Path.toText)
  · obtain ⟨session, logs, hopen⟩ := (Session.exists_openOwned_iff t.files).2 hopenable
    obtain ⟨hiff, hfailure⟩ := diagnosed_run_of_open h hopen
    rw [hiff, ← and_assoc, and_iff_right hopenable]
    exact ⟨Iff.rfl, hfailure⟩
  · obtain ⟨error, hending, -⟩ := run_of_not_openable h hopenable
    refine ⟨iff_of_false (fun hdiagnosed => ?_) fun hand => hopenable ⟨hand.1, hand.2.1⟩,
      fun _ => ⟨error, hending⟩⟩
    generalize run t = ended at hdiagnosed hending
    cases hdiagnosed <;> contradiction

end

end Checkup

section

open Invocation

variable [Machine]

end

def keyHolder (key : Text) (outcomes : List Outcome) : Terminal where
  console := .usual
  platform := "linux"
  environment := [("SAKURA_KEY", key)]
  settingsFiles := []
  typed := []
  files := .empty
  channel := .ofOutcomes outcomes
  printed := []

def keySettings (key : Text) : Settings := { Settings.ofHost Settings.defaultHost with key }

def typeHolder (nodeType : Text) : Terminal :=
  { keyHolder "k" [] with environment := [("SAKURA_KEY", "k"), ("SAKURA_NODE_TYPE", nodeType)] }

def typeSettings (nodeType : Text) : Settings := { keySettings "k" with nodeType }

def defaultUrl : Url := ⟨"http", [], "127.0.0.1", some 8000, [], none, none⟩

theorem isPlain_keySettings : (keySettings "k").IsPlain defaultUrl where
  isPlain := by decide +kernel
  query_eq := rfl
  apiHost_eq := by decide +kernel
  isAscii_key := by decide

theorem fits_defaultUrl : defaultUrl.Fits (keySettings "k").nodeId where
  address := by decide
  path e := by cases e <;> decide
  query := by decide

attribute [local instance] Machine.usual

theorem loadSettings_keyHolder (outcomes : List Outcome) :
    (keyHolder "k" outcomes).loadSettings = .ok (keySettings "k") := by
  show (keyHolder "k" []).loadSettings = _
  decide +kernel

def lateError : PanelError :=
  ⟨"/api/xray_r/node_info", "http://127.0.0.1:8000/api/xray_r/node_info",
    .transport ⟨.readTimeout, "late"⟩ true⟩

end NodePanel
