import NodePanel.Proofs.Settings.Setting
import NodePanel.Settings.Given

/-!
Settings that are given as they are. A caller is the only source here, so every setting is read on
its own from what is given for it. What was accepted once is accepted again as it is, except for the
host, which is trimmed again.
-/
namespace NodePanel.Settings

open Checked Coercion

namespace Setting

def readGiven : (x : Setting) → Given → Except FaultKind x.Value
  | ruleListPath, .path path => .ok (some path)
  | x, given => x.read given.toData

def ofGiven (x : Setting) : Option Given → Except FaultKind x.Value
  | none => .ok x.default
  | some given => x.readGiven given

def given : (x : Setting) → x.Value → Given
  | apiHost, t | key, t | nodeType, t => .data (.str t)
  | nodeId, n | retryCount, n | deviceLimit, n => .data (.int (Int.ofNat n))
  | timeoutSeconds, x | speedLimit, x => .data (.float x)
  | ruleListPath, path => path.elim (.data .null) .path
  | enableVless, b | enableXtls, b => .data (.bool b)

/-- The bounds of a setting, as far as they hold of every value that is read. A host that is read may
be empty. -/
def IsAccepted : (x : Setting) → x.Value → Prop
  | apiHost, t => Utf8.IsScalar t
  | nodeType, t => Utf8.IsScalar t ∧ t ≠ []
  | timeoutSeconds, x => x.isPositive = true
  | retryCount, n => (n : Int) ≤ retryLimit
  | speedLimit, x => x.isNonneg = true
  | _, _ => True

private theorem isAccepted_of_read {x : Setting} {v : Json} {value : x.Value}
    (h : x.read v = .ok value) :
    x.IsAccepted value := by
  cases x with
  | apiHost =>
    obtain ⟨t, ht, hread⟩ := Result.bind_eq_ok_iff.1 h
    obtain ⟨u, -, hu⟩ := Result.bind_eq_ok_iff.1 ht
    obtain ⟨hscalar, -, rfl⟩ := nonempty_eq_ok_iff.1 hu
    cases hread
    exact fun c hc => hscalar c (Text.trim_subset (Text.dropEndWhile_subset hc))
  | nodeType =>
    obtain ⟨t, -, ht⟩ := Result.bind_eq_ok_iff.1 h
    obtain ⟨hscalar, hne, rfl⟩ := nonempty_eq_ok_iff.1 ht
    exact ⟨hscalar, hne⟩
  | timeoutSeconds =>
    obtain ⟨y, -, hy⟩ := Result.bind_eq_ok_iff.1 h
    cases hy
    show Binary64.isPositive (if y.isPositive then y else defaultTimeout) = true
    split
    next hpositive => exact hpositive
    next => decide +kernel
  | retryCount =>
    obtain ⟨n, hn, hread⟩ := Result.bind_eq_ok_iff.1 h
    cases hread
    obtain ⟨m, -, hm⟩ := Result.bind_eq_ok_iff.1 hn
    obtain ⟨hmost, rfl⟩ := atMost_eq_ok_iff.1 hm
    have hle : (m.toNat : Int) ≤ retryLimit := Int.ofNat_le.2 (Int.toNat_le.2 hmost)
    exact hle
  | speedLimit =>
    obtain ⟨y, -, hy⟩ := Result.bind_eq_ok_iff.1 h
    exact isNonneg_of_nonneg hy
  | _ => trivial

private theorem isAccepted_default (x : Setting) : x.IsAccepted x.default := by
  cases x with
  | apiHost => exact (by decide : Utf8.IsScalar defaultHost)
  | nodeType => exact (by decide : Utf8.IsScalar defaultType ∧ defaultType ≠ [])
  | timeoutSeconds => exact (by decide +kernel : defaultTimeout.isPositive = true)
  | retryCount => exact (by decide : (defaultRetries : Int) ≤ retryLimit)
  | speedLimit => exact (by decide +kernel : Binary64.zero.isNonneg = true)
  | _ => trivial

theorem ofGiven_of_ne {x : Setting} (hx : x ≠ ruleListPath) (g : Option Given) :
    x.ofGiven g = x.ofValue (g.map Given.toData) := by
  cases g with
  | none => rfl
  | some g => cases x <;> first | rfl | contradiction

theorem isAccepted_of_ofGiven {x : Setting} {g : Option Given} {value : x.Value}
    (h : x.ofGiven g = .ok value) : x.IsAccepted value := by
  by_cases hx : x = ruleListPath
  · subst hx
    trivial
  · rw [ofGiven_of_ne hx] at h
    cases g with
    | none =>
      cases h
      exact x.isAccepted_default
    | some g => exact isAccepted_of_read h

theorem readGiven_given {x : Setting} {value : x.Value} (hx : x ≠ apiHost)
    (h : x.IsAccepted value) : x.readGiven (x.given value) = .ok value := by
  cases x with
  | apiHost => contradiction
  | key => rfl
  | nodeId => exact readNat_natCast value
  | nodeType => exact nonempty_eq_ok_iff.2 ⟨h.1, h.2, rfl⟩
  | timeoutSeconds => exact congrArg Except.ok (if_pos h)
  | retryCount =>
    refine Result.bind_eq_ok_iff.2 ⟨(value : Int), ?_, rfl⟩
    refine Result.bind_eq_ok_iff.2 ⟨(value : Int), ?_, atMost_eq_ok_iff.2 ⟨h, rfl⟩⟩
    exact atLeast_eq_ok_iff.2 ⟨Int.natCast_nonneg value, rfl⟩
  | speedLimit => exact if_pos h
  | deviceLimit => exact readNat_natCast value
  | ruleListPath => cases value <;> rfl
  | enableVless => rfl
  | enableXtls => rfl

end Setting

/-! Settings from what is given -/

theorem get?_foldKeys_map {α β : Type} (f : α → β) (given : Keyed α) (name : Text) :
    Keyed.get? (foldKeys (given.map fun entry => (entry.1, f entry.2))) name =
      (Keyed.get? (foldKeys given) name).map f := by
  unfold foldKeys
  induction given with
  | nil => rfl
  | cons entry given ih =>
    simp only [List.map_cons, Keyed.get?_cons, ih]
    split <;> rfl

theorem loadGiven_data [Machine] (files : Tree) (environment : Environment) (paths : List Text)
    (given : Keyed Json) :
    loadGiven files environment paths (given.map fun entry => (entry.1, .data entry.2)) =
      load files environment paths given := by
  have hpath : givenPath? (given.map fun entry => (entry.1, .data entry.2)) = none := by
    unfold givenPath?
    rw [get?_foldKeys_map]
    cases Keyed.get? (foldKeys given) "rule_list_path" <;> rfl
  have hdata : (given.map fun entry => (entry.1, Given.data entry.2)).map
      (fun entry => (entry.1, entry.2.toData)) = given := by
    rw [List.map_map]
    exact List.map_id given
  unfold loadGiven
  rw [hpath, hdata]
  cases load files environment paths given <;> rfl

def givenOf? (given : Keyed Given) (environment : Environment) (found : Keyed (Option Text))
    (x : Setting) : Option Given :=
  (Keyed.get? (foldKeys given) x.name).or
    ((((folded environment).get? (mark ++ x.name)).or (found.get? (mark ++ x.name)).join).map
      fun t => .data (.str t))

private theorem valueOf?_given (given : Keyed Given) (environment : Environment)
    (found : Keyed (Option Text)) (x : Setting) :
    valueOf? (foldKeys (given.map fun entry => (entry.1, entry.2.toData))) (folded environment) found
      x.name = (givenOf? given environment found x).map Given.toData := by
  simp only [valueOf?, givenOf?, get?_foldKeys_map, Option.map_or, Option.map_map]
  rfl

def pathOf? : Option Given → Option Path
  | some (.path path) => some path
  | _ => none

theorem givenPath?_eq (given : Keyed Given) (environment : Environment)
    (found : Keyed (Option Text)) :
    givenPath? given = pathOf? (givenOf? given environment found .ruleListPath) := by
  have hpath : givenPath? given =
      pathOf? (Keyed.get? (foldKeys given) Setting.ruleListPath.name) := rfl
  rw [hpath, givenOf?]
  cases Keyed.get? (foldKeys given) Setting.ruleListPath.name with
  | some g => rfl
  | none =>
    -- what the environment and the files have is text, and no path as it is
    rw [Option.none_or]
    cases ((folded environment).get? (mark ++ Setting.ruleListPath.name)).or
      (found.get? (mark ++ Setting.ruleListPath.name)).join <;> rfl

theorem ofGiven_ruleListPath {g : Option Given} {path : Option Path} :
    Setting.ruleListPath.ofGiven g = .ok path ↔
      ∃ read, Setting.ruleListPath.ofValue (g.map Given.toData) = .ok read ∧
        (pathOf? g).or read = path := by
  cases g with
  | none => simp [Setting.ofGiven, Setting.ofValue, pathOf?]
  | some g =>
    cases g with
    | data v => simp [Setting.ofGiven, Setting.ofValue, Setting.readGiven, Given.toData, pathOf?]
    | path p =>
      have hread : Setting.ruleListPath.ofValue (some .null) = .ok none := rfl
      simp [Setting.ofGiven, Setting.readGiven, Given.toData, hread, pathOf?]

theorem loadGiven_eq_ok_iff [Machine] {files : Tree} {environment : Environment} {paths : List Text}
    {given : Keyed Given} {s : Settings} :
    loadGiven files environment paths given = .ok s ↔
      ∃ found, fileVariables files environment paths [] = .ok found ∧
        ∀ x : Setting, x.ofGiven (givenOf? given environment found x) = .ok (x.get s) := by
  unfold loadGiven
  simp only [Result.bind_eq_ok_iff, load_eq_ok_iff, readFrom_fieldsOf_iff, valueOf?_given]
  constructor
  · rintro ⟨read, ⟨found, hfound, hread⟩, hs⟩
    cases hs
    refine ⟨found, hfound, fun x => ?_⟩
    by_cases hx : x = .ruleListPath
    · subst hx
      refine ofGiven_ruleListPath.2 ⟨read.ruleListPath, hread .ruleListPath, ?_⟩
      rw [← givenPath?_eq]
      rfl
    · rw [Setting.ofGiven_of_ne hx, hread x]
      cases x <;> first | rfl | contradiction
  · rintro ⟨found, hfound, h⟩
    obtain ⟨path, hpath, hor⟩ := ofGiven_ruleListPath.1 (h .ruleListPath)
    refine ⟨{ s with ruleListPath := path }, ⟨found, hfound, fun x => ?_⟩, ?_⟩
    · by_cases hx : x = .ruleListPath
      · subst hx
        exact hpath
      · rw [← Setting.ofGiven_of_ne hx, h x]
        cases x <;> first | rfl | contradiction
    · rw [← givenPath?_eq] at hor
      show Except.ok { s with ruleListPath := (givenPath? given).or path } = Except.ok s
      rw [hor]
      rfl

theorem loadGiven_iff [Machine] {given : Keyed Given} {s : Settings} :
    loadGiven .empty [] [] given = .ok s ↔
      ∀ x : Setting, x.ofGiven (Keyed.get? (foldKeys given) x.name) = .ok (x.get s) := by
  have hvalue (x : Setting) : givenOf? given [] [] x = Keyed.get? (foldKeys given) x.name :=
    Option.or_none
  rw [loadGiven_eq_ok_iff]
  simp only [fileVariables, Except.ok.injEq, exists_eq_left', hvalue]

/-! Settings that are given again -/

def Setting.all : List Setting := [.apiHost, .key, .nodeId, .nodeType, .timeoutSeconds, .retryCount,
  .speedLimit, .deviceLimit, .ruleListPath, .enableVless, .enableXtls]

def values (s : Settings) : Keyed Given := Setting.all.map fun x => (x.name, x.given (x.get s))

@[simp] theorem get?_foldKeys_values (s : Settings) (x : Setting) :
    Keyed.get? (foldKeys s.values) x.name = some (x.given (x.get s)) := by
  cases x <;> rfl

/-- Only the host can change when settings are given again, and only it can be refused. -/
theorem loadGiven_values_iff [Machine] {s s' : Settings}
    (h : ∀ x : Setting, x.IsAccepted (x.get s)) :
    loadGiven .empty [] [] s.values = .ok s' ↔
      s.apiHost ≠ [] ∧
        s' = { s with apiHost := Text.dropEndWhile isSlash (Text.strip s.apiHost) } := by
  have hscalar : Utf8.IsScalar s.apiHost := h .apiHost
  have hhost : Setting.apiHost.ofGiven (some (Setting.apiHost.given s.apiHost)) = .ok s'.apiHost ↔
      s.apiHost ≠ [] ∧ Text.dropEndWhile isSlash (Text.strip s.apiHost) = s'.apiHost :=
    readHost_eq_ok_iff.trans (and_iff_right hscalar)
  simp only [loadGiven_iff, get?_foldKeys_values]
  constructor
  · intro hread
    obtain ⟨hne, heq⟩ := hhost.1 (hread .apiHost)
    refine ⟨hne, eq_of_get fun x => ?_⟩
    by_cases hx : x = .apiHost
    · subst hx
      exact heq.symm
    · have hsame := (hread x).symm.trans (Setting.readGiven_given hx (h x))
      cases x <;> first | exact Except.ok.inj hsame | contradiction
  · rintro ⟨hne, rfl⟩ x
    by_cases hx : x = .apiHost
    · subst hx
      exact hhost.2 ⟨hne, rfl⟩
    · refine (Setting.readGiven_given hx (h x)).trans ?_
      cases x <;> first | rfl | contradiction

end NodePanel.Settings
