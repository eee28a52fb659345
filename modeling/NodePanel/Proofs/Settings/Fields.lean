import NodePanel.Proofs.Record.Checked
import NodePanel.Proofs.Record.Coercion
import NodePanel.Proofs.Text.Basic
import NodePanel.Settings.Basic

/-!
What settings that were accepted come from. Every one of them was read on its own from the fields
that the sources give, so whatever its reader guarantees holds of every accepted settings.
-/
namespace NodePanel.Settings

open Coercion Checked

structure ReadFrom (o : Json.Fields) (s : Settings) : Prop where
  apiHost : optional o ["api_host"] defaultHost readHost = .ok s.apiHost
  key : optional o ["key"] [] readText = .ok s.key
  nodeId : optional o ["node_id"] 1 readNat = .ok s.nodeId
  nodeType : optional o ["node_type"] defaultType (fun v => readText v >>= nonempty) = .ok s.nodeType
  timeoutSeconds : optional o ["timeout_seconds"] defaultTimeout readTimeout = .ok s.timeoutSeconds
  retryCount : optional o ["retry_count"] defaultRetries readRetries = .ok s.retryCount
  speedLimit : optional o ["speed_limit"] .zero (fun v => readFloat v >>= nonneg) = .ok s.speedLimit
  deviceLimit : optional o ["device_limit"] 0 readNat = .ok s.deviceLimit
  ruleListPath : optional o ["rule_list_path"] none readPath = .ok s.ruleListPath
  enableVless : optional o ["enable_vless"] false readBool = .ok s.enableVless
  enableXtls : optional o ["enable_xtls"] false readBool = .ok s.enableXtls

theorem ofFields_eq_ok_iff {o : Json.Fields} {s : Settings} :
    ofFields o = .ok s ↔ ReadFrom o s := by
  constructor
  · intro h
    obtain ⟨_, _, h10, hxtls, rfl⟩ := seq_eq_ok_iff.1 h
    obtain ⟨_, _, h9, hvless, rfl⟩ := seq_eq_ok_iff.1 h10
    obtain ⟨_, _, h8, hpath, rfl⟩ := seq_eq_ok_iff.1 h9
    obtain ⟨_, _, h7, hdevices, rfl⟩ := seq_eq_ok_iff.1 h8
    obtain ⟨_, _, h6, hspeed, rfl⟩ := seq_eq_ok_iff.1 h7
    obtain ⟨_, _, h5, hretries, rfl⟩ := seq_eq_ok_iff.1 h6
    obtain ⟨_, _, h4, htimeout, rfl⟩ := seq_eq_ok_iff.1 h5
    obtain ⟨_, _, h3, htype, rfl⟩ := seq_eq_ok_iff.1 h4
    obtain ⟨_, _, h2, hid, rfl⟩ := seq_eq_ok_iff.1 h3
    obtain ⟨_, _, h1, hkey, rfl⟩ := seq_eq_ok_iff.1 h2
    obtain ⟨_, hhost, rfl⟩ := map_eq_ok_iff.1 h1
    exact ⟨hhost, hkey, hid, htype, htimeout, hretries, hspeed, hdevices, hpath, hvless, hxtls⟩
  · intro h
    unfold ofFields
    rw [h.apiHost, h.key, h.nodeId, h.nodeType, h.timeoutSeconds, h.retryCount, h.speedLimit,
      h.deviceLimit, h.ruleListPath, h.enableVless, h.enableXtls]
    rfl

def fieldsOf (given : Keyed Json) (environment : Environment) (found : Keyed (Option Text)) :
    Json.Fields :=
  names.filterMap fun name =>
    (valueOf? (foldKeys given) (folded environment) found name).map (name, ·)

theorem load_eq_ok_iff [Machine] {files : Tree} {environment : Environment} {paths : List Text}
    {given : Keyed Json} {s : Settings} :
    load files environment paths given = .ok s ↔
      ∃ found, fileVariables files environment paths [] = .ok found ∧
        ReadFrom (fieldsOf given environment found) s := by
  refine Result.bind_eq_ok_iff.trans (exists_congr fun found => and_congr_right fun _ => ?_)
  exact Result.mapError_eq_ok_iff.trans (toExcept_eq_ok_iff.trans ofFields_eq_ok_iff)

theorem isNonneg_of_nonneg {x y : Binary64} (h : nonneg x = .ok y) : y.isNonneg = true := by
  unfold nonneg at h
  split at h
  next hx =>
    cases h
    exact hx
  next => contradiction

theorem ReadFrom.isNonneg_speedLimit {o : Json.Fields} {s : Settings} (h : ReadFrom o s) :
    s.speedLimit.isNonneg = true := by
  rcases optional_eq_ok_iff.1 h.speedLimit with ⟨-, hdefault⟩ | ⟨v, -, hread⟩
  · rw [← hdefault]
    decide +kernel
  · obtain ⟨x, -, hx⟩ := Result.bind_eq_ok_iff.1 hread
    exact isNonneg_of_nonneg hx

theorem readHost_eq_ok_iff {t host : Text} :
    readHost (.str t) = .ok host ↔
      Utf8.IsScalar t ∧ t ≠ [] ∧ Text.dropEndWhile isSlash (Text.strip t) = host := by
  have hread : readHost (.str t) =
      nonempty t >>= fun t => .ok (Text.dropEndWhile isSlash (Text.strip t)) := rfl
  simp only [hread, Result.bind_eq_ok_iff, nonempty_eq_ok_iff, Except.ok.injEq]
  constructor
  · rintro ⟨_, ⟨hscalar, hne, rfl⟩, hhost⟩
    exact ⟨hscalar, hne, hhost⟩
  · rintro ⟨hscalar, hne, hhost⟩
    exact ⟨t, ⟨hscalar, hne, rfl⟩, hhost⟩

theorem exists_readHost_iff {t : Text} :
    (∃ host, readHost (.str t) = .ok host ∧ host ≠ []) ↔
      Utf8.IsScalar t ∧ ∃ c ∈ Text.strip t, isSlash c = false := by
  have hleft : Text.dropEndWhile isSlash (Text.strip t) ≠ [] ↔
      ∃ c ∈ Text.strip t, isSlash c = false := by
    rw [Ne, Text.dropEndWhile_eq_nil_iff]
    simp
  simp only [readHost_eq_ok_iff]
  constructor
  · rintro ⟨_, ⟨hscalar, -, rfl⟩, hne⟩
    exact ⟨hscalar, hleft.1 hne⟩
  · rintro ⟨hscalar, c, hc, hslash⟩
    have hne : t ≠ [] := List.ne_nil_of_mem (Text.trim_subset hc)
    exact ⟨_, ⟨hscalar, hne, rfl⟩, hleft.2 ⟨c, hc, hslash⟩⟩

end NodePanel.Settings
