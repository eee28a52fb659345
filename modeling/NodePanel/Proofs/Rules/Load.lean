import NodePanel.Proofs.Files.Path
import NodePanel.Proofs.Session.Failure

/-!
Loading the rules of a file. `Ending` lists what can become of it: no file is named, the file has a
text, it cannot be read, or what names it is no name at all. Only the last of these is an error; in
all others there is a load, and it has a warning exactly if the file cannot be read.
-/
namespace NodePanel

namespace Tree

variable {files : Tree} {p : Path}

/-- Why the file at a path gives no text, if the path is one that can be looked up. -/
inductive Unreadable (files : Tree) (p : Path) : FileError → Prop where
  | lookup {fault : FileFault} (h : files.find p = .error fault) :
    Unreadable files p (.system fault p.toText)
  | directory (h : files.find p = .ok .directory) :
    Unreadable files p (.system .isDirectory p.toText)
  | content {octets : Octets} {fault : DecodeFault} (h : files.find p = .ok (.file octets))
    (hfault : Utf8.decode octets = .error fault) : Unreadable files p (.content fault)

theorem readText_of_pathError {e : FileError} (h : pathError? p = some e) :
    files.readText p = .error e := by
  simp [readText, read, guard, h, bind, Except.bind]

private theorem readText_eq (hguard : pathError? p = none) :
    files.readText p =
      match files.find p with
      | .error fault => .error (.system fault p.toText)
      | .ok .directory => .error (.system .isDirectory p.toText)
      | .ok (.file octets) =>
        match Utf8.decode octets with
        | .ok t => .ok (Text.unifyBreaks t)
        | .error fault => .error (.content fault) := by
  unfold readText read
  rw [guard_eq_ok_iff.2 hguard]
  cases files.find p with
  | error fault => rfl
  | ok entry => cases entry <;> rfl

theorem readText_eq_error_iff (hguard : pathError? p = none) {e : FileError} :
    files.readText p = .error e ↔ files.Unreadable p e := by
  rw [readText_eq hguard]
  constructor
  · intro h
    cases hfind : files.find p with
    | error fault =>
      simp only [hfind, Except.error.injEq] at h
      exact h ▸ .lookup hfind
    | ok entry =>
      cases entry with
      | directory =>
        simp only [hfind, Except.error.injEq] at h
        exact h ▸ .directory hfind
      | file octets =>
        cases hdecode : Utf8.decode octets with
        | ok t => simp [hfind, hdecode] at h
        | error fault =>
          simp only [hfind, hdecode, Except.error.injEq] at h
          exact h ▸ .content hfind hdecode
  · intro h
    cases h with
    | lookup hfind => simp [hfind]
    | directory hfind => simp [hfind]
    | content hfind hfault => simp [hfind, hfault]

private theorem Unreadable.isReported {e : FileError} (h : files.Unreadable p e) :
    (∃ fault path, e = .system fault path) ∨ ∃ fault, e = .content fault := by
  cases h with
  | lookup => exact .inl ⟨_, _, rfl⟩
  | directory => exact .inl ⟨_, _, rfl⟩
  | content => exact .inr ⟨_, rfl⟩

end Tree

namespace RuleLoad

open NodePanel.Path

variable {files : Tree} {path : Text}

/-- What becomes of loading rules from a file that may be named. -/
inductive Ending (files : Tree) :
    Option Text → Except FileError (RuleLoad × List LogRecord) → Prop where
  | unset : Ending files .none (.ok (⟨[], .none⟩, []))
  | blank {path : Text} (hblank : Text.isBlank path = true) :
    Ending files (some path) (.ok (⟨[], .none⟩, []))
  | text {path t : Text} {octets : Octets} (hblank : Text.isBlank path = false)
    (hfile : files.Holds (ofText path) octets) (htext : Utf8.decode octets = .ok t) :
    Ending files (some path)
      (.ok (⟨Rule.ofLines (Text.unifyBreaks t), .none⟩,
        [⟨.debug, .rules,
          loadedMessage (Rule.ofLines (Text.unifyBreaks t)).length (ofText path)⟩]))
  | unreadable {path : Text} {e : FileError} (hblank : Text.isBlank path = false)
    (hname : IsNameable path) (h : files.Unreadable (ofText path) e) :
    Ending files (some path)
      (.ok (⟨[], some ⟨ofText path, e.message⟩⟩,
        [⟨.warning, .rules, unreadableMessage ⟨ofText path, e.message⟩⟩]))
  | zero {path : Text} (hblank : Text.isBlank path = false) (hstray : ∀ c ∈ path, ¬ c.IsStray)
    (hzero : zero ∈ path) : Ending files (some path) (.error .zeroInPath)
  | stray {path : Text} {c : CodePoint} {fault : EncodeFault} (hblank : Text.isBlank path = false)
    (hmem : c ∈ path) (hstray : c.IsStray)
    (hfault : nameFault? (ofText path).toText = some fault) :
    Ending files (some path) (.error (.encoding fault))

theorem ofPath_of_readText {t : Text} (hblank : Text.isBlank path = false)
    (h : files.readText (ofText path) = .ok t) :
    ofPath files path = .ok (loaded (ofText path) t) := by
  unfold ofPath
  simp [hblank, h]

theorem ofPath_of_unreadable {e : FileError} (hblank : Text.isBlank path = false)
    (hname : IsNameable path) (h : files.Unreadable (ofText path) e) :
    ofPath files path = .ok (unreadable (ofText path) e.message) := by
  have hread := (Tree.readText_eq_error_iff (pathError?_ofText_eq_none_iff.2 hname)).2 h
  unfold ofPath
  rcases h.isReported with ⟨fault, path', rfl⟩ | ⟨fault, rfl⟩
  · simp [hblank, hread]
  · simp [hblank, hread]

theorem ofPath_of_zero (hblank : Text.isBlank path = false) (hstray : ∀ c ∈ path, ¬ c.IsStray)
    (hzero : zero ∈ path) : ofPath files path = .error .zeroInPath := by
  have herror : Tree.pathError? (ofText path) = some .zeroInPath := by
    simp [pathError?_ofText, nameFault?_ofText_eq_none_iff.2 hstray, hzero]
  unfold ofPath
  simp [hblank, Tree.readText_of_pathError herror]

theorem ofPath_of_stray {fault : EncodeFault} (hblank : Text.isBlank path = false)
    (hfault : nameFault? (ofText path).toText = some fault) :
    ofPath files path = .error (.encoding fault) := by
  have herror : Tree.pathError? (ofText path) = some (.encoding fault) := by
    simp [pathError?_ofText, hfault]
  unfold ofPath
  simp [hblank, Tree.readText_of_pathError herror]

private theorem ending_ofPath (files : Tree) (path : Text) :
    Ending files (some path) (ofPath files path) := by
  by_cases hblank : Text.isBlank path = true
  · have hnone : ofPath files path = .ok (⟨[], .none⟩, []) := if_pos hblank
    rw [hnone]
    exact .blank hblank
  · have hblank := Bool.eq_false_iff.2 hblank
    cases hfault : nameFault? (ofText path).toText with
    | some fault =>
      have hstray : ¬ ∀ c ∈ path, ¬ c.IsStray := by
        simp [← nameFault?_ofText_eq_none_iff, hfault]
      push Not at hstray
      obtain ⟨c, hmem, hstray⟩ := hstray
      rw [ofPath_of_stray hblank hfault]
      exact .stray hblank hmem hstray hfault
    | none =>
      have hstray := nameFault?_ofText_eq_none_iff.1 hfault
      by_cases hzero : zero ∈ path
      · rw [ofPath_of_zero hblank hstray hzero]
        exact .zero hblank hstray hzero
      · have hname : IsNameable path := fun c hc => ⟨fun h => hzero (h ▸ hc), hstray c hc⟩
        cases hread : files.readText (ofText path) with
        | ok t =>
          obtain ⟨octets, text, hfile, htext, rfl⟩ := Tree.readText_eq_ok_iff.1 hread
          rw [ofPath_of_readText hblank hread]
          exact .text hblank hfile htext
        | error e =>
          have hguard := pathError?_ofText_eq_none_iff.2 hname
          have hunreadable := (Tree.readText_eq_error_iff hguard).1 hread
          rw [ofPath_of_unreadable hblank hname hunreadable]
          exact .unreadable hblank hname hunreadable

theorem ending_ofOption (files : Tree) (argument : Option Text) :
    Ending files argument (ofOption files argument) := by
  cases argument with
  | none => exact .unset
  | some path => exact ending_ofPath files path

theorem ofOption_of_ending {argument : Option Text}
    {result : Except FileError (RuleLoad × List LogRecord)} (h : Ending files argument result) :
    ofOption files argument = result := by
  cases h with
  | unset => rfl
  | blank hblank => exact if_pos hblank
  | text hblank hfile htext =>
    exact ofPath_of_readText hblank (Tree.readText_eq_ok_iff.2 ⟨_, _, hfile, htext, rfl⟩)
  | unreadable hblank hname h => exact ofPath_of_unreadable hblank hname h
  | zero hblank hstray hzero => exact ofPath_of_zero hblank hstray hzero
  | stray hblank hmem hstray hfault => exact ofPath_of_stray hblank hfault

/-- No file is named, or it is named by something that could be the name of a file. -/
def IsLoadable (argument : Option Text) : Prop :=
  ∀ path, argument = some path → Text.isBlank path = true ∨ IsNameable path

theorem isLoadable_none : IsLoadable Option.none := by
  rintro path ⟨⟩

theorem exists_load_iff {argument : Option Text} :
    (∃ load logs, ofOption files argument = .ok (load, logs)) ↔ IsLoadable argument := by
  have hending := ending_ofOption files argument
  constructor
  · rintro ⟨load, logs, hload⟩ path rfl
    rw [hload] at hending
    cases hending with
    | blank hblank => exact .inl hblank
    | text _ hfile _ => exact .inr (pathError?_ofText_eq_none_iff.1 hfile.guarded)
    | unreadable _ hname _ => exact .inr hname
  · intro h
    cases hresult : ofOption files argument with
    | ok result => exact ⟨result.1, result.2, rfl⟩
    | error e =>
      have hname (path : Text) (hpath : argument = some path) (hblank : Text.isBlank path = false) :
          IsNameable path :=
        (h path hpath).resolve_left (by simp [hblank])
      rw [hresult] at hending
      cases hending with
      | zero hblank _ hzero => exact absurd rfl (hname _ rfl hblank _ hzero).1
      | stray hblank hmem hstray _ => exact absurd hstray (hname _ rfl hblank _ hmem).2

private theorem count_warnings {argument : Option Text} {load : RuleLoad} {logs : List LogRecord}
    (h : ofOption files argument = .ok (load, logs)) :
    (logs.filter (·.level = .warning)).length = if load.degraded then 1 else 0 := by
  have hending := ending_ofOption files argument
  rw [h] at hending
  cases hending <;> rfl

private theorem path_of_warning {path : Text} {load : RuleLoad} {logs : List LogRecord}
    {warning : RuleWarning} (h : ofOption files (some path) = .ok (load, logs))
    (hwarning : load.warning = some warning) : warning.path = ofText path := by
  have hending := ending_ofOption files (some path)
  rw [h] at hending
  cases hending with
  | blank => contradiction
  | text => contradiction
  | unreadable => exact congrArg RuleWarning.path (Option.some.inj hwarning).symm

theorem exists_session_iff {settings : Settings} {transport : Transport} :
    (∃ session logs, Session.openOver files settings transport = .ok (session, logs)) ↔
      IsLoadable (settings.ruleListPath.map Path.toText) := by
  have hload : (∃ load logs, ofOption files (settings.ruleListPath.map Path.toText) =
      .ok (load, logs)) ↔ IsLoadable (settings.ruleListPath.map Path.toText) := exists_load_iff
  rw [← hload]
  constructor
  · rintro ⟨session, logs, hopen⟩
    obtain ⟨load, hload, -⟩ := (Session.openOver_eq_ok_iff transport).1 hopen
    exact ⟨load, logs, hload⟩
  · rintro ⟨load, logs, hload⟩
    exact ⟨_, logs, (Session.openOver_eq_ok_iff transport).2 ⟨load, hload, rfl⟩⟩

/-- Loading ends as the list of its endings says. It gives a load, with one warning in the log if the
file cannot be read and none otherwise, unless it is given a name that no file can have. A path names
the file by its text, and a session can be opened whenever its rules can be loaded. -/
theorem ending_of_argument_iff (files : Tree) (argument : Option Text) :
    (∀ result, ofOption files argument = result ↔ Ending files argument result) ∧
    ((∃ load logs, ofOption files argument = .ok (load, logs)) ↔ IsLoadable argument) ∧
    (∀ load logs, ofOption files argument = .ok (load, logs) →
      (logs.filter (·.level = .warning)).length = if load.degraded then 1 else 0) ∧
    (∀ path load logs warning, argument = some (ofText path).toText →
      ofOption files argument = .ok (load, logs) → load.warning = some warning →
      warning.path = ofText path) ∧
    ∀ (settings : Settings) (transport : Transport),
      settings.ruleListPath.map Path.toText = argument →
      ((∃ session logs, Session.openOver files settings transport = .ok (session, logs)) ↔
        IsLoadable argument) := by
  refine ⟨fun result => ⟨?_, ofOption_of_ending⟩, exists_load_iff, fun _ _ => count_warnings, ?_, ?_⟩
  · rintro rfl
    exact ending_ofOption files argument
  · rintro path load logs warning rfl hload hwarning
    exact (path_of_warning hload hwarning).trans (ofText_toText (isNormal_ofText path))
  · rintro settings transport rfl
    exact exists_session_iff

def zeroName : Text := "a\x00b"

def zeroSettings : Settings :=
  ⟨"h", "k", 1, "V2ray", .zero, 3, .zero, 0, some (ofText zeroName), false, false⟩

/-- A file that is not there gives a warning, and a name with a zero in it gives nothing. -/
theorem not_loadable_of_zero :
    ofOption .empty (some zeroName) = .error .zeroInPath ∧
      (¬ ∃ session logs,
        Session.openOver .empty zeroSettings (.injected false) = .ok (session, logs)) ∧
      ∃ load logs warning, ofOption .empty (some (ofText "/r/").toText) = .ok (load, logs) ∧
        load.warning = some warning ∧ warning.path = ofText "/r" ∧
        (logs.filter (·.level = .warning)).length = 1 := by
  obtain ⟨hendings, -, -, -, hsessions⟩ := ending_of_argument_iff .empty (some zeroName)
  have hzero : zero ∈ zeroName := by decide
  refine ⟨(hendings _).2 (.zero (by decide) (by decide) hzero), ?_, ?_⟩
  · rw [hsessions zeroSettings (.injected false) rfl]
    intro hloadable
    exact ((hloadable zeroName rfl).resolve_left (by decide) zero hzero).1 rfl
  · obtain ⟨hendings, -, hcount, hpath, -⟩ :=
      ending_of_argument_iff .empty (some (ofText "/r/").toText)
    have hload := (hendings _).2 (.unreadable (by decide) (by decide) (.lookup rfl))
    exact ⟨_, _, _, hload, rfl, hpath "/r/" _ _ _ rfl hload rfl, hcount _ _ hload⟩

end RuleLoad

end NodePanel
