import NodePanel.Proofs.Command.Answers
import NodePanel.Proofs.Command.Terminal
import NodePanel.Proofs.EnvFile.Failure
import NodePanel.Proofs.EnvFile.Interpolation

/-!
Whether the answers that were kept can be read as settings. They are kept if there is a host and a key,
but settings take neither a negative number of a node nor a node without a type, and what is left of a
host without slashes at its end may be nothing.
-/
namespace NodePanel.Setup

open EnvFile Settings

variable {s : Setup} {typed : List Text}

/-! Settings -/

/-- The variables of a text are such that the settings have a host. -/
structure IsUsable (environment : Environment) (t : Text) : Prop where
  apiHost : ∀ v, fileValue environment t .apiHost = some v →
    Utf8.IsScalar v ∧ ∃ c ∈ Text.strip v, isSlash c = false
  nodeId : ∀ v, fileValue environment t .nodeId = some v → ∃ n, Coercion.readNat (.str v) = .ok n
  nodeType : ∀ v, fileValue environment t .nodeType = some v → Utf8.IsScalar v ∧ v ≠ []

private theorem IsKept.exists_ofVariable (h : s.IsKept) {environment : Environment}
    (husable : IsUsable environment s.text) (x : Setting) :
    ∃ v, x.ofVariable (fileValue environment s.text x) = .ok v := by
  by_cases hx : mark ++ x.name ∈ names.map foldCase
  · cases hvalue : fileValue environment s.text x with
    | none => exact ⟨x.default, rfl⟩
    | some v =>
      cases x with
      | apiHost =>
        obtain ⟨host, hhost, -⟩ := exists_readHost_iff.2 (husable.apiHost v hvalue)
        exact ⟨host, hhost⟩
      | key => exact ⟨v, rfl⟩
      | nodeId => exact husable.nodeId v hvalue
      | nodeType =>
        obtain ⟨hscalar, hne⟩ := husable.nodeType v hvalue
        exact ⟨v, Coercion.nonempty_eq_ok_iff.2 ⟨hscalar, hne, rfl⟩⟩
      | _ => exact absurd hx (by decide)
  · rw [h.fileValue_eq_none hx]
    exact ⟨x.default, rfl⟩

section Loaded

variable [Machine] {files : Tree} {environment : Environment} {source : Text} {path : Path}
  (hsource : Location.expandUser environment (Path.ofText source) = .ok path)
  (henvironment : IsUnmarked environment) (hfile : files.isFile path = .ok true)
  (hread : files.readText path = .ok s.text)

include hsource henvironment hfile hread

theorem IsKept.exists_load_iff (h : s.IsKept) :
    (∃ settings, load files environment [source] [] = .ok settings ∧ settings.apiHost ≠ []) ↔
      IsUsable environment s.text := by
  have hload {settings : Settings} := load_file_iff (s := settings) hsource henvironment hfile hread
  constructor
  · rintro ⟨settings, hsettings, hne⟩
    have hvalues := hload.1 hsettings
    constructor
    · intro v hv
      have hhost := hvalues .apiHost
      rw [hv] at hhost
      exact exists_readHost_iff.1 ⟨settings.apiHost, hhost, hne⟩
    · intro v hv
      have hid := hvalues .nodeId
      rw [hv] at hid
      exact ⟨settings.nodeId, hid⟩
    · intro v hv
      have htype := hvalues .nodeType
      rw [hv] at htype
      obtain ⟨hscalar, hne, -⟩ := Coercion.nonempty_eq_ok_iff.1 htype
      exact ⟨hscalar, hne⟩
  · intro husable
    obtain ⟨settings, hsettings⟩ := (load_file_ok_iff hsource henvironment hfile hread).2
      fun x => h.exists_ofVariable husable x
    refine ⟨settings, hsettings, ?_⟩
    have hhost : Setting.apiHost.ofVariable (fileValue environment s.text .apiHost) =
        .ok settings.apiHost := hload.1 hsettings .apiHost
    cases hv : fileValue environment s.text .apiHost with
    | none =>
      rw [hv] at hhost
      have hdefault : defaultHost ≠ [] := by decide
      exact Except.ok.inj hhost ▸ hdefault
    | some v =>
      rw [hv] at hhost
      obtain ⟨host, hhost', hne⟩ := exists_readHost_iff.2 (husable.apiHost v hv)
      exact Except.ok.inj (hhost'.symm.trans hhost) ▸ hne

end Loaded

/-! Answers without quotation marks in front -/

/-- An answer that is read as it was given, up to a comment in it. -/
structure IsDirect (t : Text) : Prop where
  unquoted : IsUnquoted t
  literal : IsLiteral (bareValue t)

theorem isDirect_of_no_dollar {t : Text} (hquote : IsUnquoted t) (hdollar : dollar ∉ t) :
    IsDirect t :=
  ⟨hquote, isLiteral_of_no_dollar fun hmem => hdollar ((isPrefix_bareValue t).subset hmem)⟩

private theorem isDirect_ofInt (n : Int) : IsDirect (Text.ofInt n) := by
  have hmem {c : CodePoint} (hc : c ∈ Text.ofInt n)
      (hother : c ≠ CodePoint.ofChar '-' ∧ c.isAsciiDigit = false) : False := by
    rcases Coercion.mem_ofInt hc with hminus | hdigit
    · exact hother.1 hminus
    · exact absurd hdigit (Bool.eq_false_iff.1 hother.2)
  refine isDirect_of_no_dollar (fun c hc => ⟨?_, ?_⟩) fun hdollar => hmem hdollar (by decide)
  · rintro rfl
    exact hmem (List.mem_of_mem_head? hc) (by decide)
  · rintro rfl
    exact hmem (List.mem_of_mem_head? hc) (by decide)

section Direct

variable (h : s.IsKept) (hdirect : ∀ entry ∈ s.entries, IsDirect entry.2)

include h hdirect

private theorem bindings_of_isDirect : bindings (dropMark s.text) =
    s.entries.map fun entry => (entry.1, some (bareValue entry.2)) := by
  rw [bindings_text]
  exact bindings_of_unquoted (fun entry hentry => h.isAssignment hentry)
    fun entry hentry => (hdirect entry hentry).unquoted

theorem fileValue_of_isDirect (environment : Environment) {x : Setting} {name value : Text}
    (hentry : (name, value) ∈ s.entries) (hname : foldCase name = mark ++ x.name) :
    fileValue environment s.text x = some (bareValue value) := by
  let bound (entry : Text × Text) : Binding := (entry.1, some (bareValue entry.2))
  have hbindings : bindings (dropMark s.text) = s.entries.map bound := bindings_of_isDirect h hdirect
  have hdistinct : IsDistinct (bindings (dropMark s.text)) := by
    have hnames : (names.map foldCase).Nodup := by decide
    rw [hbindings]
    exact hnames
  obtain ⟨earlier, later, hsplit⟩ := List.append_of_mem (List.mem_map_of_mem hentry)
  refine (fileValue_eq_some_iff hdistinct).2
    ⟨earlier, name, bareValue value, later, hbindings.trans hsplit, hname, ?_⟩
  exact interpolate_of_isLiteral (hdirect _ hentry).literal

/-- Such answers can be used if the number is not negative, there is a type, and the host is not only
slashes. -/
theorem IsKept.isUsable_iff (environment : Environment) (hscalar : Utf8.IsScalar s.text) :
    IsUsable environment s.text ↔
      0 ≤ s.nodeId ∧ s.nodeType ≠ [] ∧ ∃ c ∈ bareValue s.apiHost, isSlash c = false := by
  have hhost := fileValue_of_isDirect h hdirect environment (x := .apiHost) (.head _) (by decide)
  have hid := fileValue_of_isDirect h hdirect environment (x := .nodeId)
    (.tail _ (.tail _ (.head _))) (by decide)
  have htype := fileValue_of_isDirect h hdirect environment (x := .nodeType)
    (.tail _ (.tail _ (.tail _ (.head _)))) (by decide)
  have hsolid : IsSolid (Text.ofInt s.nodeId) := fun c hc => Coercion.isBlank_of_mem_ofInt hc
  rw [hsolid.bareValue] at hid
  have hstrip : Text.strip (bareValue s.apiHost) = bareValue s.apiHost :=
    (isTrimmed_bareValue h.apiHost.trimmed).trim
  have hvalue {name value : Text} (hentry : (name, value) ∈ s.entries) :
      Utf8.IsScalar (bareValue value) := by
    intro c hc
    have hline : c ∈ line (name, value) :=
      mem_line.2 (.inr (.inr ((isPrefix_bareValue value).subset hc)))
    exact hscalar c (mem_lines_heading.2 (.inr (.inr ⟨_, hentry, hline⟩)))
  constructor
  · intro husable
    obtain ⟨-, c, hc, hslash⟩ := husable.apiHost _ hhost
    obtain ⟨-, hne⟩ := husable.nodeType _ htype
    have hnonneg := (Coercion.readNat_ofInt_iff h.nodeId).1 (husable.nodeId _ hid)
    refine ⟨hnonneg, fun hnil => ?_, c, ?_, hslash⟩
    · exact hne ((bareValue_eq_nil_iff h.nodeType.trimmed).2 hnil)
    · rwa [hstrip] at hc
  · rintro ⟨hnonneg, hne, c, hc, hslash⟩
    constructor
    · intro v hv
      cases hhost.symm.trans hv
      exact ⟨hvalue (.head _), c, by rwa [hstrip], hslash⟩
    · intro v hv
      cases hid.symm.trans hv
      exact (Coercion.readNat_ofInt_iff h.nodeId).2 hnonneg
    · intro v hv
      cases htype.symm.trans hv
      refine ⟨hvalue (.tail _ (.tail _ (.tail _ (.head _)))), fun hnil => hne ?_⟩
      exact (bareValue_eq_nil_iff h.nodeType.trimmed).1 hnil

end Direct

/-! Runs -/

section Run

variable {t t' : Terminal} {path : Path}

private theorem save_eq_success [Machine] (h : s.save t = (t', .success)) :
    ∃ path, Location.envFile t.platform t.environment = .ok path ∧
      EnvFile.update t.files path s.assignments = (t'.files, .ok ()) := by
  unfold save at h
  cases hpath : Location.envFile t.platform t.environment with
  | error e =>
    rw [hpath] at h
    cases h
  | ok path =>
    rw [hpath] at h
    dsimp only at h
    cases hupdate : EnvFile.update t.files path s.assignments with
    | mk files result =>
      rw [hupdate] at h
      cases result with
      | error e => cases h
      | ok _ =>
        dsimp only at h
        rw [Terminal.eq_of_print_eq_exit h]
        exact ⟨path, rfl, hupdate⟩

private theorem run_eq_success [Machine] (h : run t = (t', .success)) :
    ∃ s path, ofLines? t.typed = some s ∧ s.isComplete = true ∧
      Location.envFile t.platform t.environment = .ok path ∧
      EnvFile.update t.files path s.assignments = (t'.files, .ok ()) := by
  unfold run at h
  cases hs : ofLines? t.typed with
  | none =>
    rw [hs] at h
    cases h
  | some s =>
    rw [hs] at h
    dsimp only at h
    split at h
    next hcomplete =>
      obtain ⟨path, hpath, hupdate⟩ := save_eq_success h
      exact ⟨s, path, rfl, hcomplete, hpath, hupdate⟩
    next => cases h

private theorem IsKept.readText_of_update {files written : Tree} (h : s.IsKept)
    (hnone : ∀ octets, (files.ensureDirectory path.parent).1.read path ≠ .ok octets)
    (hupdate : EnvFile.update files path s.assignments = (written, .ok ())) :
    Utf8.IsScalar s.text ∧ written.readText path = .ok s.text ∧ written.isFile path = .ok true := by
  obtain ⟨made, hmade, hvacant⟩ := isVacant_of_update hnone hupdate
  have hscalar := isScalar_of_update_new hmade hvacant hupdate
  rw [toText_assignments] at hscalar
  obtain ⟨written', hreplace, hholds⟩ := exists_replaceText hscalar hvacant.write
  have hsame := (update_new hmade hvacant).symm.trans hupdate
  rw [toText_assignments, hreplace] at hsame
  cases hsame
  have hbreaks : Text.unifyBreaks s.text = s.text :=
    Text.unifyBreaks_of_no_return h.return_not_mem_text
  have hread : written.readText path = .ok s.text := Tree.readText_eq_ok_iff.2
    ⟨_, s.text, hholds, Utf8.decode_encodeWide hscalar, hbreaks⟩
  exact ⟨hscalar, hread, hholds.isFile⟩

private theorem exists_run_eq_success [Machine] {made : Tree} (hs : ofLines? t.typed = some s)
    (hcomplete : s.isComplete = true)
    (hpath : Location.envFile t.platform t.environment = .ok path)
    (hmade : t.files.ensureDirectory path.parent = (made, .ok ())) (hvacant : made.IsVacant path)
    (hscalar : Utf8.IsScalar s.text) (htakes : t.Takes [.markup (savedMarkup path)]) :
    ∃ t', run t = (t', .success) := by
  obtain ⟨written, hreplace, -⟩ := exists_replaceText hscalar hvacant.write
  have hupdate : EnvFile.update t.files path s.assignments = (written, .ok ()) := by
    rw [update_new hmade hvacant, toText_assignments, hreplace]
  unfold run
  rw [hs]
  dsimp only
  rw [if_pos hcomplete]
  unfold save
  rw [hpath]
  dsimp only
  rw [hupdate]
  have htakes : ({ t with files := written } : Terminal).Takes [.markup (savedMarkup path)] := htakes
  exact ⟨_, Terminal.print_of_takes htakes _⟩

/-- After a run that succeeded where no file was, the file has just the answers. There are settings
with a host in it exactly if these are usable; for answers without quotation marks in front and
without variables in them, if the number is not negative, there is a type, and the host is not only
slashes. -/
theorem settings_after_run_iff [Machine] {environment : Environment} {source : Text}
    (htyped : ∀ l ∈ t.typed, IsTyped l)
    (hpath : Location.envFile t.platform t.environment = .ok path)
    (hnone : ∀ octets, (t.files.ensureDirectory path.parent).1.read path ≠ .ok octets)
    (h : run t = (t', .success))
    (hsource : Location.expandUser environment (Path.ofText source) = .ok path)
    (henvironment : IsUnmarked environment) :
    ∃ s, ofLines? t.typed = some s ∧ s.isComplete = true ∧ t'.files.readText path = .ok s.text ∧
      ((∃ settings, load t'.files environment [source] [] = .ok settings ∧ settings.apiHost ≠ []) ↔
        IsUsable environment s.text) ∧
      (IsDirect s.apiHost → IsDirect s.key → IsDirect s.nodeType →
        (IsUsable environment s.text ↔
          0 ≤ s.nodeId ∧ s.nodeType ≠ [] ∧ ∃ c ∈ bareValue s.apiHost, isSlash c = false)) := by
  obtain ⟨s, path', hs, hcomplete, hpath', hupdate⟩ := run_eq_success h
  obtain rfl : path' = path := Except.ok.inj (hpath'.symm.trans hpath)
  have hkept := (isAnswered_of_ofLines? hs).isKept htyped
  obtain ⟨hscalar, hread, hfile⟩ := hkept.readText_of_update hnone hupdate
  have hloaded := hkept.exists_load_iff hsource henvironment hfile hread
  refine ⟨s, hs, hcomplete, hread, hloaded, fun hhost hkey htype => ?_⟩
  refine hkept.isUsable_iff (fun entry hentry => ?_) environment hscalar
  simp only [entries, List.mem_cons, List.not_mem_nil, or_false] at hentry
  rcases hentry with rfl | rfl | rfl | rfl
  · exact hhost
  · exact hkey
  · exact isDirect_ofInt s.nodeId
  · exact htype

end Run

def newcomer (typed : List Text) : Terminal where
  console := .usual
  platform := "linux"
  environment := [("XDG_CONFIG_HOME", "xdg")]
  settingsFiles := []
  typed := typed
  files := .empty
  channel := .ofOutcomes []
  printed := []

def newcomerFile : Text := "xdg/sakura-panel/.env"

attribute [local instance] Machine.usual

theorem exists_run_newcomer (hs : ofLines? typed = some s) (hcomplete : s.isComplete = true)
    (hscalar : Utf8.IsScalar s.text) : ∃ t', run (newcomer typed) = (t', .success) := by
  have hpath : Location.envFile (newcomer typed).platform (newcomer typed).environment =
      .ok (Path.ofText newcomerFile) := rfl
  have htakes : (newcomer []).Takes [.markup (savedMarkup (Path.ofText newcomerFile))] := by
    decide +kernel
  exact exists_run_eq_success hs hcomplete hpath rfl ⟨by decide, _, rfl, rfl⟩ hscalar htakes

theorem read_newcomerFile (typed : List Text) (octets : Octets) :
    ((newcomer typed).files.ensureDirectory (Path.ofText newcomerFile).parent).1.read
      (Path.ofText newcomerFile) ≠ .ok octets :=
  nofun

/-- A host that is only a slash is kept, but is no host; an address is one. -/
theorem settings_after_two_runs :
    (∃ t', run (newcomer ["/", "", "", "k"]) = (t', .success) ∧
      ¬ ∃ settings, load t'.files [] [newcomerFile] [] = .ok settings ∧ settings.apiHost ≠ []) ∧
    ∃ t', run (newcomer ["http://h", "4", "Trojan", "k"]) = (t', .success) ∧
      ∃ settings, load t'.files [] [newcomerFile] [] = .ok settings ∧ settings.apiHost ≠ [] := by
  have hdirect : ∀ t ∈ [Text.ofString "/", "http://h", "V2ray", "Trojan", "k"], IsDirect t := by
    have hwords : ∀ t ∈ [Text.ofString "/", "http://h", "V2ray", "Trojan", "k"],
        IsUnquoted t ∧ dollar ∉ t := by decide
    exact fun t ht => isDirect_of_no_dollar (hwords t ht).1 (hwords t ht).2
  constructor
  · have hanswers : ofLines? ["/", "", "", "k"] = some ⟨"/", 1, "V2ray", "k"⟩ := rfl
    obtain ⟨t', hrun⟩ := exists_run_newcomer hanswers rfl (by decide +kernel)
    obtain ⟨s, hs, -, -, hloaded, hiff⟩ := @settings_after_run_iff _ t' (Path.ofText newcomerFile) _ []
      newcomerFile (by decide) rfl (read_newcomerFile _) hrun rfl (by decide)
    cases hanswers.symm.trans hs
    have husable := hiff (hdirect _ (by decide)) (hdirect _ (by decide)) (hdirect _ (by decide))
    have hslash : ¬ ∃ c ∈ bareValue "/", isSlash c = false := by decide +kernel
    exact ⟨t', hrun, fun hsettings => hslash (husable.1 (hloaded.1 hsettings)).2.2⟩
  · have hanswers : ofLines? ["http://h", "4", "Trojan", "k"] =
        some ⟨"http://h", 4, "Trojan", "k"⟩ := by decide +kernel
    obtain ⟨t', hrun⟩ := exists_run_newcomer hanswers rfl (by decide +kernel)
    obtain ⟨s, hs, -, -, hloaded, hiff⟩ := @settings_after_run_iff _ t' (Path.ofText newcomerFile) _ []
      newcomerFile (by decide) rfl (read_newcomerFile _) hrun rfl (by decide)
    cases hanswers.symm.trans hs
    have husable := hiff (hdirect _ (by decide)) (hdirect _ (by decide)) (hdirect _ (by decide))
    exact ⟨t', hrun, hloaded.2 (husable.2 ⟨by decide, by decide, by decide +kernel⟩)⟩

end NodePanel.Setup
