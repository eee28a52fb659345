import NodePanel.Proofs.Files.Tree

/-!
What stays when files are changed. Directories are made where nothing is, so that no file changes. A
file that is written changes one place, and where a file was written once it can be written again.
-/
namespace NodePanel.Tree

variable {files later : Tree} {p : Path} {place : Place} {octets : Octets}

/-- The same files at the same places, with the same octets. There may be other directories. -/
def SameFiles (files later : Tree) : Prop :=
  ∀ place octets,
    later.entry? place = some (.file octets) ↔ files.entry? place = some (.file octets)

theorem SameFiles.refl : SameFiles files files := fun _ _ => Iff.rfl

theorem SameFiles.trans {last : Tree} (h : SameFiles files later) (h' : SameFiles later last) :
    SameFiles files last :=
  fun place octets => (h' place octets).trans (h place octets)

private theorem sameFiles_put_directory (h : files.entry? place = none) :
    SameFiles files (files.put place .directory) := by
  intro q octets
  by_cases hq : q = place
  · subst hq
    rw [entry?_put_self (isGiven_of_none h), h]
    exact iff_of_false nofun nofun
  · rw [entry?_put_of_ne hq]

private theorem sameFiles_makeDirectory (h : files.makeDirectory p = .ok later) :
    SameFiles files later := by
  obtain ⟨place, -, hput⟩ := Result.bind_eq_ok_iff.1 h
  cases hentry : files.entry? place with
  | some entry =>
    rw [hentry] at hput
    contradiction
  | none =>
    rw [hentry] at hput
    cases hput
    exact sameFiles_put_directory hentry

theorem sameFiles_ensureOne (files : Tree) (p : Path) : SameFiles files (files.ensureOne p).1 := by
  unfold ensureOne
  cases hmade : files.makeDirectory p with
  | ok made => exact sameFiles_makeDirectory hmade
  | error fault => exact .refl

private theorem sameFiles_ensureFrom (files : Tree) (root : PathRoot) (parts : List Text) :
    SameFiles files (files.ensureFrom root parts).1 := by
  induction parts with
  | nil => exact sameFiles_ensureOne files ⟨root, []⟩
  | cons part parts ih =>
    unfold ensureFrom
    dsimp only
    split
    next =>
      split
      next above habove =>
        rw [habove] at ih
        exact ih.trans (sameFiles_ensureOne above _)
      next above e habove =>
        rw [habove] at ih
        exact ih
    next => exact sameFiles_ensureOne files _

theorem sameFiles_ensureDirectory (files : Tree) (p : Path) :
    SameFiles files (files.ensureDirectory p).1 := by
  unfold ensureDirectory
  cases guard p with
  | error e => exact .refl
  | ok _ => exact sameFiles_ensureFrom files p.root p.parts.reverse

/-! Written files -/

section Write

variable (h : files.write p octets = .ok later)

include h

theorem holds_or_isVacant_of_write : (∃ old, files.Holds p old) ∨ files.IsVacant p := by
  obtain ⟨hguard, place, hresolve, hentry, -⟩ := write_eq_ok_iff.1 h
  cases hfound : files.entry? place with
  | none => exact .inr ⟨hguard, place, hresolve, hfound⟩
  | some entry =>
    cases entry with
    | directory => contradiction
    | file old => exact .inl ⟨old, hguard, find_eq_ok_iff.2 ⟨place, hresolve, hfound⟩⟩

theorem exists_write (octets' : Octets) : ∃ written, files.write p octets' = .ok written := by
  rcases holds_or_isVacant_of_write h with ⟨old, hold⟩ | hvacant
  · obtain ⟨written, hwrite, -⟩ := hold.write octets'
    exact ⟨written, hwrite⟩
  · obtain ⟨written, hwrite, -⟩ := hvacant.write octets'
    exact ⟨written, hwrite⟩

theorem entry?_of_write {q : Place} (hresolve : files.resolve p = .ok place) :
    later.entry? q = if q = place then some (.file octets) else files.entry? q := by
  obtain ⟨-, place', hresolve', hentry, rfl⟩ := write_eq_ok_iff.1 h
  cases hresolve.symm.trans hresolve'
  split
  next hq =>
    subst hq
    refine entry?_put_self (Bool.eq_false_iff.2 fun hgiven => hentry ?_)
    unfold entry?
    rw [if_pos hgiven]
  next hq => exact entry?_put_of_ne hq

end Write

end NodePanel.Tree
