import NodePanel.Proofs.Rules.Load
import NodePanel.Proofs.Session.Own

/-!
Sessions over their own transport: when one can be opened, and that the results of its operations do
not depend on what has been logged.
-/
namespace NodePanel

/-- Settings with which requests can be made: others can be appended to the address of the panel, and
the key can be a header. -/
structure Settings.HasClient (settings : Settings) : Prop where
  address : ∃ url base, Url.ofText settings.apiHost = .ok url ∧ url.asBase = .ok base
  isAscii_key : ∀ c ∈ settings.key, c.isAscii = true

theorem HttpClient.exists_create_iff {settings : Settings} :
    (∃ client, create settings [] = .ok client) ↔ settings.HasClient := by
  constructor
  · rintro ⟨client, hclient⟩
    obtain ⟨url, base, hurl, hbase, hfault, -⟩ := create_eq_ok_iff.1 hclient
    exact ⟨⟨url, base, hurl, hbase⟩, fault?_ownHeaders_eq_none_iff.1 hfault⟩
  · rintro ⟨⟨url, base, hurl, hbase⟩, hkey⟩
    exact ⟨_, create_of_base hurl hbase hkey⟩

theorem Settings.IsPlain.hasClient {settings : Settings} {u : Url} (h : settings.IsPlain u)
    (hfits : u.Fits settings.nodeId) : settings.HasClient := by
  obtain ⟨client, hclient, -⟩ := h.exists_client hfits
  exact HttpClient.exists_create_iff.1 ⟨client, hclient⟩

namespace Session

theorem exists_openOwned_iff (files : Tree) {settings : Settings} :
    (∃ session logs, openOwned files settings = .ok (session, logs)) ↔
      settings.HasClient ∧ RuleLoad.IsLoadable (settings.ruleListPath.map Path.toText) := by
  rw [← HttpClient.exists_create_iff, ← @RuleLoad.exists_load_iff files]
  simp only [openOwned_eq_ok_iff]
  constructor
  · rintro ⟨session, logs, client, load, hclient, hload, -⟩
    exact ⟨⟨client, hclient⟩, load, logs, hload⟩
  · rintro ⟨⟨client, hclient⟩, load, logs, hload⟩
    exact ⟨_, logs, client, load, hclient, hload, rfl⟩

end Session

/-! What was logged before -/

@[simp] theorem Transport.send_logAll [Machine] (t : Transport) (c : Channel)
    (records : List LogRecord) (r : Request) :
    (t.send (c.logAll records) r).2 = (t.send c r).2 := by
  cases t with
  | injected debug =>
    rw [send_injected, send_injected]
    rfl
  | owned client debug closed =>
    cases hprepare : client.prepare r with
    | error error =>
      rw [send_of_prepare_eq_error hprepare, send_of_prepare_eq_error hprepare]
    | ok wire =>
      cases closed with
      | false =>
        rw [send_owned hprepare, send_owned hprepare]
        rfl
      | true => rw [send_closed hprepare, send_closed hprepare]

@[simp] theorem Session.askNodeInfo_logAll [Machine] (s : Session) (c : Channel)
    (records : List LogRecord) :
    (s.askNodeInfo (c.logAll records)).2 = (s.askNodeInfo c).2 := by
  simp only [askNodeInfo, call, Transport.send_logAll]

end NodePanel
