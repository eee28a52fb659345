import NodePanel.Proofs.EnvFile.Lines
import NodePanel.Proofs.Files.Unchanged

/-!
Updates that fail. Directories may have been made by then, but no file is changed, with one exception:
when a key or a value that is given has no octets, the file has been emptied before this is found out.
-/
namespace NodePanel.EnvFile

variable {t : Text} {entries : Keyed Text} {values : Keyed (Option Text)}

private theorem keys_assigned_sublist : (assigned values).keys.Sublist values.keys := by
  unfold assigned
  induction values with
  | nil => exact List.Sublist.slnil
  | cons entry values ih =>
    obtain ⟨key, value⟩ := entry
    rw [List.filterMap_cons]
    cases value with
    | none => exact ih.cons key
    | some value => exact ih.cons_cons key

section Failed

variable {files later : Tree} {p : Path} {e : FileError}

/-- A text without octets is the one reason why a file is left changed. -/
theorem replaceText_eq_error (h : replaceText files p t = (later, .error e)) :
    later = files ∨ files.write p [] = .ok later ∧ ¬ Utf8.IsScalar t := by
  unfold replaceText at h
  cases hempty : files.write p [] with
  | error e =>
    rw [hempty] at h
    exact .inl (Prod.mk.inj h).1.symm
  | ok emptied =>
    rw [hempty] at h
    dsimp only at h
    cases hencode : Utf8.encode t with
    | error fault =>
      rw [hencode] at h
      cases h
      refine .inr ⟨rfl, fun ht => ?_⟩
      cases hencode.symm.trans (Utf8.encode_eq_ok ht)
    | ok octets =>
      obtain ⟨written, hwrite⟩ := Tree.exists_write hempty octets
      rw [hencode] at h
      dsimp only at h
      rw [hwrite] at h
      cases h

private theorem replaceText_of_not_isScalar {emptied : Tree}
    (hempty : files.write p [] = .ok emptied)
    (ht : ¬ Utf8.IsScalar t) :
    ∃ fault, replaceText files p t = (emptied, .error (.encoding fault)) := by
  unfold replaceText
  rw [hempty]
  dsimp only
  cases hencode : Utf8.encode t with
  | error fault => exact ⟨fault, rfl⟩
  | ok octets => exact absurd (Utf8.isScalar_of_encode hencode) ht

private theorem update_eq_error (h : update files p values = (later, .error e)) :
    files.SameFiles later ∨
      ∃ made entries, files.ensureDirectory p.parent = (made, .ok ()) ∧
        existing made p = .ok entries ∧ made.write p [] = .ok later ∧
        ¬ Utf8.IsScalar (toText (entries.putAll (assigned values))) := by
  have hsame := Tree.sameFiles_ensureDirectory files p.parent
  unfold update at h
  cases hensure : files.ensureDirectory p.parent with
  | mk made result =>
    rw [hensure] at h hsame
    cases result with
    | error e =>
      cases h
      exact .inl hsame
    | ok _ =>
      dsimp only at h
      cases hexisting : existing made p with
      | error e =>
        rw [hexisting] at h
        cases h
        exact .inl hsame
      | ok entries =>
        rw [hexisting] at h
        rcases replaceText_eq_error h with rfl | ⟨hempty, hscalar⟩
        · exact .inl hsame
        · exact .inr ⟨made, entries, rfl, hexisting, hempty, hscalar⟩

theorem existing_eq_ok_iff {octets : Octets} (h : files.Holds p octets) :
    existing files p = .ok entries ↔
      ∃ text, Utf8.decode octets = .ok text ∧ ofText (Text.unifyBreaks text) = entries := by
  cases hdecode : Utf8.decode octets with
  | ok text =>
    have hread : files.readText p = .ok (Text.unifyBreaks text) :=
      Tree.readText_eq_ok_iff.2 ⟨octets, text, h, hdecode, rfl⟩
    rw [existing_eq_ok hread]
    constructor
    · intro hentries
      exact ⟨text, rfl, Except.ok.inj hentries⟩
    · rintro ⟨_, ⟨⟩, rfl⟩
      rfl
  | error fault =>
    have hread : files.readText p = .error (.content fault) := by
      unfold Tree.readText
      rw [Tree.read_eq_ok_iff.2 h]
      show Except.bind (.ok octets) _ = _
      dsimp only [Except.bind]
      rw [hdecode]
    unfold existing
    rw [h.entryAt?, hread]
    exact iff_of_false nofun nofun

/-- What is given has no octets, and there is a file with something in it that can be read. -/
def LosesFile (files : Tree) (p : Path) (values : Keyed (Option Text)) : Prop :=
  ∃ made octets text, files.ensureDirectory p.parent = (made, .ok ()) ∧ made.read p = .ok octets ∧
    octets ≠ [] ∧ Utf8.decode octets = .ok text ∧
    ∃ entry ∈ assigned values, ¬ (Utf8.IsScalar entry.1 ∧ Utf8.IsScalar entry.2)

private theorem isScalar_of_mem_ofText {text : Text} (h : Utf8.IsScalar text) {entry : Text × Text}
    (hentry : entry ∈ ofText text) : Utf8.IsScalar entry.1 ∧ Utf8.IsScalar entry.2 := by
  obtain ⟨hkey, hvalue⟩ := (readFrom_of_mem_ofText hentry).isPlain h
  exact ⟨fun c hc => (hkey c hc).1, fun c hc => (hvalue c hc).1⟩

section Emptied

variable {made : Tree} (hmade : files.ensureDirectory p.parent = (made, .ok ()))

include hmade

theorem sameFiles_made : files.SameFiles made := by
  have hsame := Tree.sameFiles_ensureDirectory files p.parent
  rwa [hmade] at hsame

private theorem losesFile_of_emptied {octets : Octets} (hholds : made.Holds p octets)
    (hne : octets ≠ [])
    (hexisting : existing made p = .ok entries)
    (hscalar : ¬ Utf8.IsScalar (toText (entries.putAll (assigned values)))) :
    LosesFile files p values := by
  obtain ⟨text, hdecode, rfl⟩ := (existing_eq_ok_iff hholds).1 hexisting
  have hread : made.readText p = .ok (Text.unifyBreaks text) :=
    Tree.readText_eq_ok_iff.2 ⟨octets, text, hholds, hdecode, rfl⟩
  simp only [isScalar_toText_iff, not_forall, exists_prop] at hscalar
  obtain ⟨entry, hentry, hscalar⟩ := hscalar
  have hgiven : entry ∈ assigned values := by
    rcases Keyed.mem_of_mem_putAll hentry with hold | hnew
    · exact absurd (isScalar_of_mem_ofText (isScalar_of_readText hread) hold) hscalar
    · exact hnew
  exact ⟨made, octets, text, hmade, Tree.read_eq_ok_iff.2 hholds, hne, hdecode, entry, hgiven, hscalar⟩

private theorem update_of_not_isScalar (hnodup : values.keys.Nodup) {octets : Octets} {text : Text}
    (hread : made.read p = .ok octets) (hdecode : Utf8.decode octets = .ok text)
    {entry : Text × Text} (hentry : entry ∈ assigned values)
    (hscalar : ¬ (Utf8.IsScalar entry.1 ∧ Utf8.IsScalar entry.2)) :
    ∃ later fault place, update files p values = (later, .error (.encoding fault)) ∧
      files.entry? place = some (.file octets) ∧ later.entry? place = some (.file []) := by
  have hholds := Tree.read_eq_ok_iff.1 hread
  have hexisting : existing made p = .ok (ofText (Text.unifyBreaks text)) :=
    (existing_eq_ok_iff hholds).2 ⟨text, hdecode, rfl⟩
  obtain ⟨place, hresolve, hplace⟩ := Tree.find_eq_ok_iff.1 hholds.found
  obtain ⟨emptied, hempty, -⟩ := hholds.write []
  have hput : entry ∈ (ofText (Text.unifyBreaks text)).putAll (assigned values) :=
    Keyed.mem_putAll_of_mem Keyed.nodup_collect (keys_assigned_sublist.nodup hnodup) hentry
  obtain ⟨fault, hreplace⟩ := replaceText_of_not_isScalar hempty fun hscalar' =>
    hscalar (isScalar_toText_iff.1 hscalar' entry hput)
  refine ⟨emptied, fault, place, ?_, (sameFiles_made hmade place octets).1 hplace, ?_⟩
  · unfold update
    rw [hmade]
    dsimp only
    rw [hexisting]
    exact hreplace
  · rw [Tree.entry?_of_write hempty hresolve, if_pos rfl]

end Emptied

theorem kept_or_losesFile (h : update files p values = (later, .error e)) {place : Place}
    {octets : Octets} (hfile : files.entry? place = some (.file octets)) :
    later.entry? place = some (.file octets) ∨
      LosesFile files p values ∧ (files.ensureDirectory p.parent).1.resolve p = .ok place ∧
        later.entry? place = some (.file []) := by
  rcases update_eq_error h with hsame | ⟨made, entries, hmade, hexisting, hempty, hscalar⟩
  · exact .inl ((hsame place octets).2 hfile)
  · have hfound := (sameFiles_made hmade place octets).2 hfile
    obtain ⟨hguard, target, hresolve, -⟩ := Tree.write_eq_ok_iff.1 hempty
    rw [hmade, Tree.entry?_of_write hempty hresolve]
    by_cases hplace : place = target
    · subst hplace
      rw [if_pos rfl]
      by_cases hne : octets = []
      · exact .inl (by rw [hne])
      · have hholds : made.Holds p octets :=
          ⟨hguard, Tree.find_eq_ok_iff.2 ⟨place, hresolve, hfound⟩⟩
        exact .inr ⟨losesFile_of_emptied hmade hholds hne hexisting hscalar, hresolve, rfl⟩
    · rw [if_neg hplace]
      exact .inl hfound

private theorem exists_replaceText_of_update {written : Tree}
    (h : update files p values = (written, .ok ())) :
    ∃ made t, files.ensureDirectory p.parent = (made, .ok ()) ∧
      replaceText made p t = (written, .ok ()) := by
  unfold update at h
  cases hmade : files.ensureDirectory p.parent with
  | mk made result =>
    rw [hmade] at h
    cases result with
    | error e => cases h
    | ok _ =>
      dsimp only at h
      split at h
      next => cases h
      next entries hexisting => exact ⟨made, _, rfl, h⟩

theorem isVacant_of_update {written : Tree}
    (hnone : ∀ octets, (files.ensureDirectory p.parent).1.read p ≠ .ok octets)
    (h : update files p values = (written, .ok ())) :
    ∃ made, files.ensureDirectory p.parent = (made, .ok ()) ∧ made.IsVacant p := by
  obtain ⟨made, t, hmade, hreplace⟩ := exists_replaceText_of_update h
  obtain ⟨-, emptied, hempty⟩ := of_replaceText_eq_ok hreplace
  rw [hmade] at hnone
  rcases Tree.holds_or_isVacant_of_write hempty with ⟨old, hold⟩ | hvacant
  · exact absurd (Tree.read_eq_ok_iff.2 hold) (hnone old)
  · exact ⟨made, hmade, hvacant⟩

theorem LosesFile.update (hnodup : values.keys.Nodup) (h : LosesFile files p values) :
    ∃ later fault place octets, update files p values = (later, .error (.encoding fault)) ∧
      files.entry? place = some (.file octets) ∧ octets ≠ [] ∧
      later.entry? place = some (.file []) := by
  obtain ⟨made, octets, text, hmade, hread, hne, hdecode, entry, hentry, hscalar⟩ := h
  obtain ⟨later, fault, place, hupdate, hplace, hemptied⟩ :=
    update_of_not_isScalar hmade hnodup hread hdecode hentry hscalar
  exact ⟨later, fault, place, octets, hupdate, hplace, hne, hemptied⟩

/-- After an update that failed all files are what they were, unless it lost one. A file that is not
what it was is the one at the path, and it is empty. -/
theorem files_after_failed_update_iff (hnodup : values.keys.Nodup)
    (h : update files p values = (later, .error e)) :
    ((∀ place octets, files.entry? place = some (.file octets) →
        later.entry? place = some (.file octets)) ↔ ¬ LosesFile files p values) ∧
    ∀ place octets, files.entry? place = some (.file octets) →
      later.entry? place = some (.file octets) ∨
        (files.ensureDirectory p.parent).1.resolve p = .ok place ∧
          later.entry? place = some (.file []) := by
  refine ⟨⟨?_, ?_⟩, ?_⟩
  · intro hsame hloses
    obtain ⟨emptied, fault, place, octets, hupdate, hplace, hne, hempty⟩ := hloses.update hnodup
    cases h.symm.trans hupdate
    cases hempty.symm.trans (hsame place octets hplace)
    exact hne rfl
  · intro hkept place octets hfile
    rcases kept_or_losesFile h hfile with hsame | ⟨hloses, -⟩
    · exact hsame
    · exact absurd hloses hkept
  · intro place octets hfile
    exact (kept_or_losesFile h hfile).imp_right And.right

end Failed

def storedFiles : Tree :=
  Tree.empty.place (Path.ofText "u.env") (.file (Utf8.encodeWide "SAKURA_KEY=old\n"))

def unreadableFiles : Tree := Tree.empty.place (Path.ofText "u.env") (.file [0xFF])

/-- A value without octets loses the file that is there, unless this could not be read either. -/
theorem file_lost_by_surrogate :
    (∃ later e, update storedFiles (Path.ofText "u.env")
        [("SAKURA_KEY", some [CodePoint.ofNat 0xD800])] = (later, .error e) ∧
      ¬ ∀ place octets, storedFiles.entry? place = some (.file octets) →
        later.entry? place = some (.file octets)) ∧
    ∃ later e, update unreadableFiles (Path.ofText "u.env")
        [("SAKURA_KEY", some [CodePoint.ofNat 0xD800])] = (later, .error e) ∧
      ∀ place octets, unreadableFiles.entry? place = some (.file octets) →
        later.entry? place = some (.file octets) := by
  have hnodup : Keyed.keys [(Text.ofString "SAKURA_KEY", some [CodePoint.ofNat 0xD800])] |>.Nodup := by
    decide
  constructor
  · have hloses : LosesFile storedFiles (Path.ofText "u.env")
        [("SAKURA_KEY", some [CodePoint.ofNat 0xD800])] :=
      ⟨storedFiles, Utf8.encodeWide "SAKURA_KEY=old\n", "SAKURA_KEY=old\n", by decide, by decide,
        by decide, by decide, by decide⟩
    obtain ⟨later, fault, -, -, hupdate, -⟩ := hloses.update hnodup
    refine ⟨later, _, hupdate, fun hkept => ?_⟩
    exact (files_after_failed_update_iff hnodup hupdate).1.1 hkept hloses
  · refine ⟨_, _, rfl, (@files_after_failed_update_iff _ unreadableFiles _ (Path.ofText "u.env") _
      hnodup rfl).1.2 ?_⟩
    rintro ⟨made, octets, text, hmade, hread, -, hdecode, -⟩
    obtain rfl : unreadableFiles = made := (Prod.mk.inj hmade).1
    obtain rfl : [0xFF] = octets := Except.ok.inj hread
    cases hdecode

end NodePanel.EnvFile
