import NodePanel.Files.Tree
import NodePanel.Proofs.Encoding.Utf8
import NodePanel.Proofs.Result

/-!
Files that are written in place of files. The content of a file has no bearing on where paths lead,
so what was written is what the same path reads afterwards, and all other places stay as they are.
-/
namespace NodePanel.Tree

variable {files : Tree} {p : Path}

/-- A path that can be looked up leads to a file with these octets. -/
structure Holds (files : Tree) (p : Path) (octets : Octets) : Prop where
  guarded : pathError? p = none
  found : files.find p = .ok (.file octets)

theorem guard_eq_ok_iff : guard p = .ok () ↔ pathError? p = none := by
  unfold guard
  cases pathError? p with
  | none => exact iff_of_true rfl rfl
  | some e => exact iff_of_false nofun nofun

theorem read_eq_ok_iff {octets : Octets} : files.read p = .ok octets ↔ files.Holds p octets := by
  refine Result.bind_eq_ok_iff.trans ?_
  constructor
  · rintro ⟨⟨⟩, hguard, h⟩
    obtain ⟨entry, hfind, h⟩ := Result.bind_eq_ok_iff.1 (Result.mapError_eq_ok_iff.1 h)
    cases entry with
    | file octets' =>
      cases h
      exact ⟨guard_eq_ok_iff.1 hguard, hfind⟩
    | directory => contradiction
  · intro h
    refine ⟨(), guard_eq_ok_iff.2 h.guarded, Result.mapError_eq_ok_iff.2 ?_⟩
    exact Result.bind_eq_ok_iff.2 ⟨.file octets, h.found, rfl⟩

theorem readText_eq_ok_iff {t : Text} :
    files.readText p = .ok t ↔
      ∃ octets text, files.Holds p octets ∧ Utf8.decode octets = .ok text ∧
        Text.unifyBreaks text = t := by
  refine Result.bind_eq_ok_iff.trans (exists_congr fun octets => ?_)
  rw [read_eq_ok_iff]
  cases Utf8.decode octets with
  | ok text =>
    constructor
    · rintro ⟨hholds, h⟩
      exact ⟨text, hholds, rfl, Except.ok.inj h⟩
    · rintro ⟨text', hholds, htext, h⟩
      cases htext
      exact ⟨hholds, congrArg Except.ok h⟩
  | error fault =>
    constructor
    · rintro ⟨-, h⟩
      contradiction
    · rintro ⟨text, -, htext, -⟩
      contradiction

theorem find_eq_ok_iff {entry : Entry} :
    files.find p = .ok entry ↔
      ∃ place, files.resolve p = .ok place ∧ files.entry? place = some entry := by
  refine Result.bind_eq_ok_iff.trans (exists_congr fun place => and_congr_right fun _ => ?_)
  cases files.entry? place with
  | some entry' =>
    exact ⟨fun h => congrArg some (Except.ok.inj h), fun h => congrArg Except.ok (Option.some.inj h)⟩
  | none => exact iff_of_false nofun nofun

theorem Holds.entryAt? {octets : Octets} (h : files.Holds p octets) :
    files.entryAt? p = .ok (some (.file octets)) := by
  unfold Tree.entryAt?
  rw [h.guarded, h.found]

theorem Holds.isFile {octets : Octets} (h : files.Holds p octets) :
    files.isFile p = .ok true := by
  unfold Tree.isFile
  rw [h.entryAt?]
  rfl

theorem write_eq_ok_iff {octets : Octets} {later : Tree} :
    files.write p octets = .ok later ↔
      pathError? p = none ∧ ∃ place, files.resolve p = .ok place ∧
        files.entry? place ≠ some .directory ∧ files.put place (.file octets) = later := by
  refine Result.bind_eq_ok_iff.trans ?_
  rw [← guard_eq_ok_iff]
  simp only [located, Result.mapError_eq_ok_iff, Result.bind_eq_ok_iff]
  constructor
  · rintro ⟨⟨⟩, hguard, place, hresolve, h⟩
    refine ⟨hguard, place, hresolve, ?_⟩
    cases hentry : files.entry? place with
    | none =>
      rw [hentry] at h
      exact ⟨by simp, Except.ok.inj h⟩
    | some entry =>
      cases entry with
      | directory =>
        rw [hentry] at h
        contradiction
      | file old =>
        rw [hentry] at h
        exact ⟨by simp, Except.ok.inj h⟩
  · rintro ⟨hguard, place, hresolve, hentry, rfl⟩
    refine ⟨(), hguard, place, hresolve, ?_⟩
    split
    next hdirectory => contradiction
    next => rfl

/-! Entries after a change -/

private theorem lookup_filter_ne {entries : List (Place × Entry)} {place q : Place}
    (h : q ≠ place) :
    (entries.filter (·.1 != place)).lookup q = entries.lookup q := by
  induction entries with
  | nil => rfl
  | cons entry entries ih =>
    obtain ⟨r, e⟩ := entry
    by_cases hr : r = place
    · subst hr
      have hkey : (q == r) = false := beq_eq_false_iff_ne.2 h
      rw [List.filter_cons_of_neg (by simp), ih, List.lookup_cons, hkey]
    · rw [List.filter_cons_of_pos (by simp [hr]), List.lookup_cons, List.lookup_cons, ih]

theorem entry?_put_self {place : Place} {entry : Entry} (h : place.isGiven = false) :
    entry? (files.put place entry) place = some entry := by
  unfold entry? put
  rw [h]
  simp

theorem entry?_put_of_ne {place q : Place} {entry : Entry} (h : q ≠ place) :
    entry? (files.put place entry) q = files.entry? q := by
  unfold entry? put
  split
  · rfl
  · have hkey : (q == place) = false := beq_eq_false_iff_ne.2 h
    rw [List.lookup_cons, hkey]
    exact lookup_filter_ne h

theorem isGiven_of_file {place : Place} {octets : Octets}
    (h : files.entry? place = some (.file octets)) : place.isGiven = false := by
  unfold entry? at h
  split at h
  next => cases h
  next hgiven => exact Bool.eq_false_iff.2 hgiven

section Rewrite

variable {place : Place} {octets octets' : Octets}

private theorem enter_put_file (h : files.entry? place = some (.file octets)) (q : Place)
    (part : Text) :
    (files.put place (.file octets')).enter q part = files.enter q part := by
  by_cases hq : q = place
  · subst hq
    unfold enter
    rw [h, entry?_put_self (isGiven_of_file h)]
  · unfold enter
    rw [entry?_put_of_ne hq]

private theorem resolve_put_file (h : files.entry? place = some (.file octets)) (q : Path) :
    (files.put place (.file octets')).resolve q = files.resolve q := by
  have henter : (files.put place (.file octets')).enter = files.enter := by
    ext q part
    rw [enter_put_file h]
  unfold resolve
  rw [henter]

theorem Holds.write (h : files.Holds p octets) (octets' : Octets) :
    ∃ written, files.write p octets' = .ok written ∧ written.Holds p octets' := by
  obtain ⟨place, hresolve, hentry⟩ := find_eq_ok_iff.1 h.found
  refine ⟨files.put place (.file octets'), ?_, h.guarded, find_eq_ok_iff.2 ⟨place, ?_, ?_⟩⟩
  · exact write_eq_ok_iff.2 ⟨h.guarded, place, hresolve, by simp [hentry], rfl⟩
  · rw [resolve_put_file hentry, hresolve]
  · exact entry?_put_self (isGiven_of_file hentry)

end Rewrite

/-! The directory of a file -/

@[simp] theorem nameSize_append (s t : Text) :
    Path.nameSize (s ++ t) = Path.nameSize s + Path.nameSize t := by
  simp [Path.nameSize]

theorem toText_of_parts {root : PathRoot} {parts : List Text} (h : parts ≠ []) :
    Path.toText ⟨root, parts⟩ = Path.rootText root ++ Text.join "/" parts := by
  unfold Path.toText
  cases parts with
  | nil => contradiction
  | cons part parts => cases root <;> rfl

private theorem join_concat {part last : Text} {parts : List Text} {separator : Text} :
    Text.join separator (part :: parts ++ [last]) =
      Text.join separator (part :: parts) ++ (separator ++ last) := by
  simp [Text.join]

theorem toText_parent (root : PathRoot) (parts : List Text) (last : Text) :
    Path.toText ⟨root, parts⟩ = "." ∨
      ∃ rest, Path.toText ⟨root, parts ++ [last]⟩ = Path.toText ⟨root, parts⟩ ++ rest := by
  cases parts with
  | nil =>
    cases root with
    | relative => exact .inl rfl
    | slash => exact .inr ⟨last, by simp [Path.toText, Text.join, Path.rootText]⟩
    | doubleSlash => exact .inr ⟨last, by simp [Path.toText, Text.join, Path.rootText]⟩
  | cons part parts =>
    refine .inr ⟨"/" ++ last, ?_⟩
    rw [toText_of_parts (by simp), toText_of_parts (by simp), List.append_assoc, join_concat]

theorem pathError?_eq_none_iff :
    pathError? p = none ↔
      ∀ c ∈ p.toText, (c.isSurrogate && !Path.isOctetPoint c) = false ∧ c ≠ Path.zero := by
  unfold pathError? Path.nameFault?
  cases hfault : EncodeFault.find? "utf-8" "surrogates not allowed"
      (fun c => c.isSurrogate && !Path.isOctetPoint c) CodePoint.isSurrogate p.toText with
  | some fault =>
    refine iff_of_false nofun fun h => ?_
    rw [Utf8.find?_eq_none_iff.2 fun c hc => (h c hc).1] at hfault
    contradiction
  | none =>
    have hpoints := Utf8.find?_eq_none_iff.1 hfault
    simp only [ite_eq_right_iff, reduceCtorEq, imp_false, List.contains_eq_mem, decide_eq_true_eq]
    constructor
    · intro hzero c hc
      exact ⟨hpoints c hc, fun h => hzero (h ▸ hc)⟩
    · intro h hzero
      exact (h _ hzero).2 rfl

private theorem nameSize_parent_le {parts : List Text} {last : Text} {root : PathRoot}
    (h : Path.nameSize (Path.toText ⟨root, parts ++ [last]⟩) ≤ pathLimit) :
    Path.nameSize (Path.toText ⟨root, parts⟩) ≤ pathLimit := by
  rcases toText_parent root parts last with hpoint | ⟨rest, hrest⟩
  · rw [hpoint]
    decide
  · rw [hrest, nameSize_append] at h
    exact Nat.le_trans (Nat.le_add_right _ _) h

private theorem pathError?_parent {parts : List Text} {last : Text} {root : PathRoot}
    (h : pathError? ⟨root, parts ++ [last]⟩ = none) : pathError? ⟨root, parts⟩ = none := by
  rw [pathError?_eq_none_iff] at h ⊢
  intro c hc
  rcases toText_parent root parts last with hpoint | ⟨rest, hrest⟩
  · rw [hpoint] at hc
    revert c
    decide
  · rw [hrest] at h
    exact h c (List.mem_append_left _ hc)

theorem resolve_eq_ok_iff {place : Place} :
    files.resolve p = .ok place ↔
      Path.nameSize p.toText ≤ pathLimit ∧
        p.parts.foldlM files.enter (if p.root = .relative then .workingDirectory else .root) =
          .ok place := by
  unfold resolve
  split
  next hlong => exact iff_of_false nofun fun h => absurd hlong (Nat.not_lt.2 h.1)
  next hlong => exact (and_iff_right (Nat.not_lt.1 hlong)).symm

theorem entry?_of_enter {place place' : Place} {part : Text}
    (h : files.enter place part = .ok place') : files.entry? place = some .directory := by
  unfold enter at h
  cases hentry : files.entry? place with
  | none =>
    rw [hentry] at h
    contradiction
  | some entry =>
    cases entry with
    | file octets =>
      rw [hentry] at h
      contradiction
    | directory => rfl

@[simp] theorem entry?_start (root : PathRoot) :
    files.entry? (if root = .relative then .workingDirectory else .root) = some .directory := by
  cases root <;> rfl

theorem Holds.parent {octets : Octets} (h : files.Holds p octets) :
    pathError? p.parent = none ∧ files.find p.parent = .ok .directory := by
  obtain ⟨root, parts⟩ := p
  obtain ⟨place, hresolve, hentry⟩ := find_eq_ok_iff.1 h.found
  obtain ⟨hsize, hfold⟩ := resolve_eq_ok_iff.1 hresolve
  rcases List.eq_nil_or_concat parts with rfl | ⟨directory, last, rfl⟩
  · have hplace := Except.ok.inj hfold
    rw [← hplace, entry?_start] at hentry
    cases hentry
  · dsimp only at hfold
    rw [List.concat_eq_append] at *
    rw [List.foldlM_append] at hfold
    obtain ⟨above, habove, hlast⟩ := Result.bind_eq_ok_iff.1 hfold
    have hparent : Path.parent ⟨root, directory ++ [last]⟩ = ⟨root, directory⟩ := by
      simp [Path.parent]
    rw [hparent]
    refine ⟨pathError?_parent h.guarded, find_eq_ok_iff.2 ⟨above, ?_, ?_⟩⟩
    · exact resolve_eq_ok_iff.2 ⟨nameSize_parent_le hsize, habove⟩
    · obtain ⟨place', hstep, -⟩ := Result.bind_eq_ok_iff.1 hlast
      exact entry?_of_enter hstep

theorem makeDirectory_of_find {entry : Entry} (h : files.find p = .ok entry) :
    files.makeDirectory p = .error .alreadyExists := by
  obtain ⟨place, hresolve, hentry⟩ := find_eq_ok_iff.1 h
  unfold makeDirectory
  simp only [hresolve, bind, Except.bind, hentry]

theorem ensureOne_of_directory (h : files.find p = .ok .directory) :
    files.ensureOne p = (files, .ok ()) := by
  have hdirectory : files.isDirectory p = true := by
    unfold isDirectory
    rw [h]
  unfold ensureOne
  rw [makeDirectory_of_find h]
  dsimp only
  rw [hdirectory]
  rfl

theorem ensureDirectory_of_directory (hguard : pathError? p = none)
    (h : files.find p = .ok .directory) : files.ensureDirectory p = (files, .ok ()) := by
  obtain ⟨root, parts⟩ := p
  unfold Tree.ensureDirectory
  rw [guard_eq_ok_iff.2 hguard]
  dsimp only
  cases hparts : parts.reverse with
  | nil =>
    have hnil : parts = [] := List.reverse_eq_nil_iff.1 hparts
    subst hnil
    exact ensureOne_of_directory h
  | cons last directory =>
    have hpath : (last :: directory).reverse = parts := by
      rw [← hparts, List.reverse_reverse]
    unfold ensureFrom
    dsimp only
    rw [hpath, makeDirectory_of_find h]
    exact ensureOne_of_directory h

/-! Files that are not there yet -/

structure IsVacant (files : Tree) (p : Path) : Prop where
  guarded : pathError? p = none
  found : ∃ place, files.resolve p = .ok place ∧ files.entry? place = none

theorem IsVacant.entryAt? (h : files.IsVacant p) : files.entryAt? p = .ok none := by
  obtain ⟨place, hresolve, hentry⟩ := h.found
  have hfind : files.find p = .error .notFound := by
    unfold Tree.find
    simp only [hresolve, bind, Except.bind, hentry]
  unfold Tree.entryAt?
  rw [h.guarded, hfind]

section New

variable {place : Place} {octets : Octets}

theorem isGiven_of_none (h : files.entry? place = none) : place.isGiven = false := by
  unfold entry? at h
  split at h
  next => contradiction
  next hgiven => exact Bool.eq_false_iff.2 hgiven

/-- On the way of a path there are only directories, so a new file is not in its way. -/
theorem foldlM_enter_put (h : files.entry? place = none) {start goal : Place} {parts : List Text}
    (hfold : parts.foldlM files.enter start = .ok goal) :
    parts.foldlM (files.put place (.file octets)).enter start = .ok goal := by
  induction parts generalizing start with
  | nil => exact hfold
  | cons part parts ih =>
    obtain ⟨next, henter, hrest⟩ := Result.bind_eq_ok_iff.1 hfold
    have hne : start ≠ place := by
      rintro rfl
      rw [entry?_of_enter henter] at h
      contradiction
    refine Result.bind_eq_ok_iff.2 ⟨next, ?_, ih hrest⟩
    rw [← henter]
    unfold enter
    rw [entry?_put_of_ne hne]

theorem IsVacant.write (h : files.IsVacant p) (octets : Octets) :
    ∃ written, files.write p octets = .ok written ∧ written.Holds p octets := by
  obtain ⟨place, hresolve, hentry⟩ := h.found
  obtain ⟨hsize, hfold⟩ := resolve_eq_ok_iff.1 hresolve
  refine ⟨files.put place (.file octets), ?_, h.guarded, find_eq_ok_iff.2 ⟨place, ?_, ?_⟩⟩
  · exact write_eq_ok_iff.2 ⟨h.guarded, place, hresolve, by simp [hentry], rfl⟩
  · exact resolve_eq_ok_iff.2 ⟨hsize, foldlM_enter_put hentry hfold⟩
  · exact entry?_put_self (isGiven_of_none hentry)

end New

end NodePanel.Tree
