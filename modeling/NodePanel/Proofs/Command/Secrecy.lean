import NodePanel.Command.Run
import NodePanel.Proofs.Command.Terminal
import NodePanel.Proofs.Session.Secrecy
import NodePanel.Proofs.Settings.Host

/-!
The key on the console. With keys that look alike when masked, every command but the one that asks
for a key prints the same, logs the same and ends in the same way, and what it sends differs in the
header with the key at most.
-/
namespace NodePanel

/-- Terminals that can show and do show the same, and whose channels are alike but for keys that look
alike. -/
structure Terminal.Alike (t t' : Terminal) : Prop where
  console_eq : t.console = t'.console
  printed_eq : t.printed = t'.printed
  channel_eq : t.channel.hideKey = t'.channel.hideKey

/-- Terminals where commands with two settings start: they show the same, and of the files, which may
be where the settings come from, those with local rules have the same in them. -/
structure Terminal.StartAlike [Machine] (settings settings' : Settings) (t t' : Terminal) : Prop
    extends Terminal.Alike t t' where
  loadSettings_eq : t.loadSettings = .ok settings
  loadSettings_eq' : t'.loadSettings = .ok settings'
  load_eq : RuleLoad.ofOption t.files (settings.ruleListPath.map Path.toText) =
    RuleLoad.ofOption t'.files (settings'.ruleListPath.map Path.toText)

/-- Two commands that end in the same way at terminals that are alike. -/
def EndAlike (r r' : Terminal × Ending) : Prop := r.1.Alike r'.1 ∧ r.2 = r'.2

namespace Terminal

variable {t t' : Terminal}

theorem Alike.withPrinted (h : t.Alike t') (items : List Printed) :
    (t.withPrinted items).Alike (t'.withPrinted items) :=
  ⟨h.console_eq, congrArg (· ++ items) h.printed_eq, h.channel_eq⟩

theorem Alike.log (h : t.Alike t') (records : List LogRecord) :
    (t.log records).Alike (t'.log records) :=
  ⟨h.console_eq, h.printed_eq, congrArg (Channel.logAll · records) h.channel_eq⟩

@[simp] theorem files_log (t : Terminal) (records : List LogRecord) :
    (t.log records).files = t.files :=
  rfl

theorem Alike.withChannel (h : t.Alike t') {c c' : Channel} (hc : c.hideKey = c'.hideKey) :
    ({ t with channel := c } : Terminal).Alike { t' with channel := c' } :=
  ⟨h.console_eq, h.printed_eq, hc⟩

theorem Alike.stop (h : t.Alike t') (error : CommandError) :
    EndAlike (t.stop error) (t'.stop error) :=
  ⟨h, rfl⟩

/-- The same console refuses the same item, so printing comes to an end at both or at neither. -/
theorem Alike.print (h : t.Alike t') {items : List Printed} {go go' : Terminal → Terminal × Ending}
    (hgo : EndAlike (go (t.withPrinted items)) (go' (t'.withPrinted items))) :
    EndAlike (t.print items go) (t'.print items go') := by
  induction items generalizing t t' with
  | nil => simpa using hgo
  | cons shown items ih =>
    rw [print_cons, print_cons, ← h.console_eq]
    cases t.console.fault? shown with
    | some error => exact h.stop _
    | none =>
      refine ih (h.withPrinted [shown]) ?_
      simpa using hgo

theorem Alike.print_finish (h : t.Alike t') (items : List Printed) (ending : Ending) :
    EndAlike (t.print items (finish ending)) (t'.print items (finish ending)) :=
  h.print ⟨h.withPrinted items, rfl⟩

theorem StartAlike.withPrinted [Machine] {settings settings' : Settings}
    (h : StartAlike settings settings' t t') (items : List Printed) :
    StartAlike settings settings' (t.withPrinted items) (t'.withPrinted items) :=
  { h with toAlike := h.toAlike.withPrinted items }

end Terminal

/-! What is shown of settings -/

@[simp] theorem SessionInfo.panel_hideKey (info : SessionInfo) :
    info.hideKey.panel = info.panel := by
  simp [panel, hideKey]

namespace Checkup

@[simp] theorem ofKey_hideKey (settings : Settings) : ofKey settings.hideKey = ofKey settings := by
  simp [ofKey, Settings.hideKey]

@[simp] theorem report_hideKey (t : Terminal) (settings : Settings) (load : RuleLoad)
    (result : Except PanelError NodeInfo) :
    report t settings.hideKey load result = report t settings load result := by
  unfold report
  rw [ofKey_hideKey]
  rfl

theorem report_alike {settings settings' : Settings} (hs : settings.hideKey = settings'.hideKey)
    {t t' : Terminal} (h : t.Alike t') (load : RuleLoad) (result : Except PanelError NodeInfo) :
    EndAlike (report t settings load result) (report t' settings' load result) := by
  -- The findings depend on the key as it looks masked, so one session's settings do for both.
  rw [← report_hideKey t settings, ← report_hideKey t' settings', hs]
  cases result with
  | ok info => exact h.print_finish _ _
  | error error => exact h.print_finish _ _

theorem run_alike [Machine] {settings settings' : Settings} (h : settings.LookAlike settings')
    {t t' : Terminal} (ht : Terminal.StartAlike settings settings' t t') :
    EndAlike (run t) (run t') := by
  unfold run
  rw [ht.loadSettings_eq, ht.loadSettings_eq']
  dsimp only
  rw [← ht.load_eq]
  cases RuleLoad.ofOption t.files (settings.ruleListPath.map Path.toText) with
  | error error => exact ht.toAlike.stop _
  | ok loaded =>
    obtain ⟨load, logs⟩ := loaded
    have hlogged := ht.toAlike.log logs
    rcases Session.openOwned_of_lookAlike h ht.load_eq with
      ⟨error, hopen, hopen'⟩ | ⟨s, s', more, hopen, hopen', hsession⟩
    · simp only [Terminal.files_log, hopen, hopen']
      exact hlogged.stop _
    · obtain ⟨hchannel, hresult⟩ :=
        Session.askNodeInfo_of_hideKey_eq hsession (hlogged.log more).channel_eq
      have halike := hlogged.withChannel hchannel
      simp only [Terminal.files_log, hopen, hopen']
      rcases hleft : s.askNodeInfo ((t.log logs).log more).channel with ⟨c, result⟩
      rcases hright : s'.askNodeInfo ((t'.log logs).log more).channel with ⟨c', result'⟩
      rw [hleft, hright] at hresult halike
      obtain rfl : result = result' := hresult
      cases result with
      | ok info => exact report_alike h.hideKey_eq halike load _
      | error error =>
        cases error with
        | panel error => exact report_alike h.hideKey_eq halike load _
        | escape escape => exact halike.stop _

end Checkup

namespace Invocation

variable [Machine] {settings settings' : Settings} (h : settings.LookAlike settings')
variable {t t' : Terminal}

include h

theorem withSession_alike (ht : Terminal.StartAlike settings settings' t t') (i : Invocation)
    {go : Session → Terminal → Terminal × Ending}
    (hgo : ∀ {s s' : Session} {t t' : Terminal}, s.hideKey = s'.hideKey → t.Alike t' →
      EndAlike (go s t) (go s' t')) :
    EndAlike (i.withSession t go) (i.withSession t' go) := by
  unfold withSession
  rw [ht.loadSettings_eq, ht.loadSettings_eq']
  rcases Session.openOwned_of_lookAlike h ht.load_eq with
    ⟨error, hopen, hopen'⟩ | ⟨s, s', logs, hopen, hopen', hsession⟩
  · simp only [hopen, hopen']
    exact ht.toAlike.stop _
  · have hload : s.load = s'.load := by
      show s.hideKey.load = s'.hideKey.load
      rw [hsession]
    simp only [hopen, hopen', hload]
    refine (ht.toAlike.log logs).print (hgo ?_ ((ht.toAlike.log logs).withPrinted _))
    cases i.debug with
    | false => exact hsession
    | true =>
      show (s.setDebug true).hideKey = (s'.setDebug true).hideKey
      rw [Session.setDebug_hideKey, Session.setDebug_hideKey, hsession]

omit h in
theorem perform_alike (operation : Operation) (done : List Printed) {s s' : Session}
    {t t' : Terminal} (hs : s.hideKey = s'.hideKey) (ht : t.Alike t') :
    EndAlike (perform operation done s t) (perform operation done s' t') := by
  obtain ⟨hchannel, hresult⟩ := Session.perform_of_hideKey_eq hs ht.channel_eq operation
  have halike := ht.withChannel hchannel
  unfold perform
  rcases hleft : s.perform t.channel operation with ⟨c, result⟩
  rcases hright : s'.perform t'.channel operation with ⟨c', result'⟩
  rw [hleft, hright] at hresult halike
  obtain rfl : result = result' := hresult
  cases result with
  | ok reply => exact halike.print_finish _ _
  | error error =>
    cases error with
    | panel error => exact halike.print_finish _ _
    | escape escape => exact halike.stop _

private theorem runCommand_alike (ht : Terminal.StartAlike settings settings' t t') (i : Invocation)
    {command : Command} (hcommand : command ≠ .setup) :
    EndAlike (i.runCommand command t) (i.runCommand command t') := by
  cases command with
  | describe =>
    refine ht.toAlike.print (withSession_alike h (ht.withPrinted _) i fun {s s' _ _} hs halike => ?_)
    have hpanel : s.describe.panel = s'.describe.panel := by
      rw [← SessionInfo.panel_hideKey, ← SessionInfo.panel_hideKey s'.describe]
      show s.hideKey.describe.panel = s'.hideKey.describe.panel
      rw [hs]
    rw [hpanel]
    exact halike.print_finish _ _
  | nodeInfo => exact withSession_alike h ht i (perform_alike _ _)
  | users => exact withSession_alike h ht i (perform_alike _ _)
  | rules => exact withSession_alike h ht i (perform_alike _ _)
  | reportStatus status => exact withSession_alike h ht i (perform_alike _ _)
  | reportIllegal hits => exact withSession_alike h ht i (perform_alike _ _)
  | checkup => exact Checkup.run_alike h ht
  | setup => contradiction

theorem run_alike (ht : Terminal.StartAlike settings settings' t t') {i : Invocation}
    (hpurpose : i.purpose ≠ .ok (.run .setup)) : EndAlike (i.run t) (i.run t') := by
  unfold run
  cases hi : i.purpose with
  | error error => exact ⟨ht.toAlike, rfl⟩
  | ok purpose =>
    cases purpose with
    | help => exact ⟨ht.toAlike, rfl⟩
    | completion => exact ⟨ht.toAlike, rfl⟩
    | run command =>
      refine runCommand_alike h ht i ?_
      rintro rfl
      exact hpurpose hi

end Invocation

/-- With two keys in ASCII that look alike when masked, and all else the same, sessions give the
same, log the same and send the same but for the header with the key, and a session tells of itself
the same but for the key; every command but the one that asks for a key prints the same and ends in
the same way. A masked key has the length of the key, and of its code points only those at the ends
of a key that is longer than both ends. -/
theorem Settings.keys_alike_when_masked [Machine] {settings settings' : Settings}
    (hothers : { settings with key := settings'.key } = settings')
    (hmasked : Text.masked settings.key = Text.masked settings'.key)
    (hascii : ∀ c ∈ settings.key, c.isAscii = true)
    (hascii' : ∀ c ∈ settings'.key, c.isAscii = true) :
    (∀ (files : Tree) (outcomes : List Outcome),
      (∃ error, World.startOwned files settings outcomes = .error error ∧
        World.startOwned files settings' outcomes = .error error) ∨
      ∃ w w', World.startOwned files settings outcomes = .ok w ∧
        World.startOwned files settings' outcomes = .ok w' ∧
        ∀ actions, (w.run actions).2.map Session.Event.hideKey =
            (w'.run actions).2.map Session.Event.hideKey ∧
          (w.run actions).1.channel.hideKey = (w'.run actions).1.channel.hideKey) ∧
    (∀ (i : Invocation) (t t' : Terminal), i.purpose ≠ .ok (.run .setup) →
      Terminal.StartAlike settings settings' t t' → EndAlike (i.run t) (i.run t')) ∧
    ∀ key : Text, (Text.masked key).length = key.length ∧
      ∀ i < key.length, (Text.masked key)[i]? = some Text.mask ∨
        4 < key.length ∧ (i < 2 ∨ key.length ≤ i + 2) ∧ (Text.masked key)[i]? = key[i]? := by
  have halike : settings.LookAlike settings' :=
    ⟨hideKey_eq_of_key hothers hmasked, hascii, hascii'⟩
  refine ⟨fun files outcomes => ?_, fun i t t' hpurpose ht => Invocation.run_alike halike ht hpurpose,
    fun key => ⟨Text.length_masked key, fun i => Text.getElem?_masked_cases⟩⟩
  rcases World.startOwned_of_lookAlike halike files outcomes with
    hfailure | ⟨w, w', hw, hw', hworld⟩
  · exact .inl hfailure
  · refine .inr ⟨w, w', hw, hw', fun actions => ?_⟩
    obtain ⟨hrun, hevents⟩ := World.run_of_hideKey_eq hworld actions
    exact ⟨hevents, congrArg World.channel hrun⟩

attribute [local instance] Machine.usual

/-- Two keys that differ in the middle. -/
theorem Settings.keys_alike_in_the_middle :
    ∃ settings settings' t t', { settings with key := settings'.key } = settings' ∧
      settings.key ≠ settings'.key ∧ Text.masked settings.key = Text.masked settings'.key ∧
      (∀ c ∈ settings.key, c.isAscii = true) ∧ (∀ c ∈ settings'.key, c.isAscii = true) ∧
      Terminal.StartAlike settings settings' t t' ∧
      EndAlike ((Invocation.ofLine ["--debug", "doctor", "run"]).run t)
        ((Invocation.ofLine ["--debug", "doctor", "run"]).run t') ∧
      ∃ w w', World.startOwned .empty settings [.failure ⟨.readTimeout, "late"⟩] = .ok w ∧
        World.startOwned .empty settings' [.failure ⟨.readTimeout, "late"⟩] = .ok w' ∧
        (w.run [.setDebug true, .perform .nodeInfo, .describe]).1.channel.hideKey =
          (w'.run [.setDebug true, .perform .nodeInfo, .describe]).1.channel.hideKey := by
  -- The defaults are kept from being computed.
  obtain ⟨defaults, hdefaults⟩ : ∃ defaults, defaults = Settings.ofHost Settings.defaultHost :=
    ⟨_, rfl⟩
  let withKey (key : Text) : Settings := { defaults with key }
  let terminal (key : Text) : Terminal := ⟨.usual, "linux", [("SAKURA_KEY", key)], [], [], .empty,
    .ofOutcomes [.failure ⟨.readTimeout, "late"⟩], []⟩
  have hstart : Terminal.StartAlike (withKey "ab1yz") (withKey "ab2yz") (terminal "ab1yz")
      (terminal "ab2yz") :=
    { console_eq := rfl
      printed_eq := rfl
      channel_eq := rfl
      loadSettings_eq := by
        subst hdefaults
        decide +kernel
      loadSettings_eq' := by
        subst hdefaults
        decide +kernel
      load_eq := rfl }
  have hothers : { withKey "ab1yz" with key := (withKey "ab2yz").key } = withKey "ab2yz" := rfl
  have hkeys : Text.ofString "ab1yz" ≠ Text.ofString "ab2yz" := by decide
  have hmasked : Text.masked "ab1yz" = Text.masked "ab2yz" := by decide
  have hascii : ∀ c ∈ Text.ofString "ab1yz", c.isAscii = true := by decide
  have hascii' : ∀ c ∈ Text.ofString "ab2yz", c.isAscii = true := by decide
  obtain ⟨hsessions, hcommands, -⟩ := keys_alike_when_masked hothers hmasked hascii hascii'
  have hcommand := hcommands (.ofLine ["--debug", "doctor", "run"]) _ _ (by decide) hstart
  rcases hsessions .empty [.failure ⟨.readTimeout, "late"⟩] with
    ⟨error, herror, -⟩ | ⟨w, w', hw, hw', hruns⟩
  · have hok : (World.startOwned .empty (withKey "ab1yz")
        [.failure ⟨.readTimeout, "late"⟩]).isOk = true := by
      subst hdefaults
      decide +kernel
    rw [herror] at hok
    contradiction
  · exact ⟨_, _, _, _, hothers, hkeys, hmasked, hascii, hascii', hstart, hcommand, w, w', hw, hw',
      (hruns _).2⟩

end NodePanel
