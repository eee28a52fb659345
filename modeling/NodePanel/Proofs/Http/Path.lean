import NodePanel.Http.Url
import NodePanel.Proofs.Text.Split

/-!
Paths of addresses. A path is normal if no part of it stands for the same or the enclosing directory;
normalizing gives such a path and leaves it alone afterwards, so paths below a normal one are normal.
-/
namespace NodePanel.Url

def IsNamed (part : Text) : Prop := part ≠ Text.ofString "." ∧ part ≠ Text.ofString ".."

instance : DecidablePred IsNamed := fun part =>
  inferInstanceAs (Decidable (part ≠ Text.ofString "." ∧ part ≠ Text.ofString ".."))

def IsNormal (path : Text) : Prop := ∀ part ∈ Text.splitOn slash path, IsNamed part

instance : DecidablePred IsNormal := fun path =>
  inferInstanceAs (Decidable (∀ part ∈ Text.splitOn slash path, IsNamed part))

def IsRooted (path : Text) : Prop := path = [] ∨ ∃ rest, path = slash :: rest

instance : DecidablePred IsRooted
  | [] => isTrue (.inl rfl)
  | c :: rest => decidable_of_iff (c = slash)
    ⟨fun h => .inr ⟨rest, congrArg (· :: rest) h⟩, fun h => by
      obtain h | ⟨_, h⟩ := h
      · contradiction
      · exact (List.cons_eq_cons.1 h).1⟩

theorem isNormal_append {s t : Text} (hs : IsNormal s) (ht : IsNormal t) :
    IsNormal (s ++ slash :: t) := by
  unfold IsNormal
  rw [Text.splitOn_append_cons]
  intro part hpart
  exact (List.mem_append.1 hpart).elim (hs part) (ht part)

theorem isNormal_of_append {s t : Text} (h : IsNormal (s ++ slash :: t)) : IsNormal s := by
  unfold IsNormal at h ⊢
  rw [Text.splitOn_append_cons] at h
  exact fun part hpart => h part (List.mem_append_left _ hpart)

/-- The parts that are kept after one more, the last one first. -/
def keepPart (kept : List Text) (part : Text) : List Text :=
  if part = Text.ofString "." then kept
  else if part = Text.ofString ".." then
    (if kept.isEmpty || kept = [[]] then kept else kept.drop 1)
  else part :: kept

private theorem normalizeParts_eq (parts : List Text) :
    normalizeParts parts = (parts.foldl keepPart []).reverse := rfl

private theorem keepPart_of_named {part : Text} (h : IsNamed part) (kept : List Text) :
    keepPart kept part = part :: kept := by
  simp [keepPart, h.1, h.2]

private theorem foldl_keepPart_of_named {parts : List Text} (h : ∀ part ∈ parts, IsNamed part)
    (kept : List Text) : parts.foldl keepPart kept = parts.reverse ++ kept := by
  induction parts generalizing kept with
  | nil => rfl
  | cons part parts ih =>
    rw [List.foldl_cons, keepPart_of_named (h part List.mem_cons_self),
      ih fun p hp => h p (List.mem_cons_of_mem part hp)]
    simp

theorem normalizePath_of_isNormal {path : Text} (h : IsNormal path) : normalizePath path = path := by
  unfold normalizePath
  rw [normalizeParts_eq, foldl_keepPart_of_named h, List.append_nil, List.reverse_reverse]
  exact Text.join_splitOn slash path

/-- The root is never left, and only parts that stand for themselves come on top of it. -/
theorem exists_keepPart_root (kept : List Text) (part : Text) :
    ∃ kept', keepPart (kept ++ [[]]) part = kept' ++ [[]] ∧
      ∀ p ∈ kept', p ∈ kept ∨ p = part ∧ IsNamed p := by
  unfold keepPart
  by_cases hone : part = Text.ofString "."
  · exact ⟨kept, if_pos hone, fun p hp => .inl hp⟩
  · by_cases htwo : part = Text.ofString ".."
    · rw [if_neg hone, if_pos htwo]
      cases kept with
      | nil => exact ⟨[], by simp, fun p hp => .inl hp⟩
      | cons last kept => exact ⟨kept, by simp, fun p hp => .inl (List.mem_cons_of_mem last hp)⟩
    · rw [if_neg hone, if_neg htwo]
      refine ⟨part :: kept, rfl, fun p hp => ?_⟩
      rcases List.mem_cons.1 hp with rfl | hp
      · exact .inr ⟨rfl, hone, htwo⟩
      · exact .inl hp

private theorem exists_foldl_keepPart_root (parts kept : List Text) :
    ∃ kept', parts.foldl keepPart (kept ++ [[]]) = kept' ++ [[]] ∧
      ∀ p ∈ kept', p ∈ kept ∨ p ∈ parts ∧ IsNamed p := by
  induction parts generalizing kept with
  | nil => exact ⟨kept, rfl, fun p hp => .inl hp⟩
  | cons part parts ih =>
    obtain ⟨kept', hstep, hkept⟩ := exists_keepPart_root kept part
    obtain ⟨kept'', hfold, hkept'⟩ := ih kept'
    refine ⟨kept'', by rw [List.foldl_cons, hstep, hfold], fun p hp => ?_⟩
    rcases hkept' p hp with h | ⟨h, hnamed⟩
    · rcases hkept p h with h | ⟨rfl, hnamed⟩
      · exact .inl h
      · exact .inr ⟨List.mem_cons_self, hnamed⟩
    · exact .inr ⟨List.mem_cons_of_mem part h, hnamed⟩

private theorem exists_normalizeParts_root (parts : List Text) :
    ∃ kept, normalizeParts ([] :: parts) = [] :: kept ∧
      ∀ part ∈ kept, part ∈ parts ∧ IsNamed part := by
  obtain ⟨kept, hfold, hkept⟩ := exists_foldl_keepPart_root parts []
  have hroot : normalizeParts ([] :: parts) = (kept ++ [[]]).reverse := congrArg List.reverse hfold
  refine ⟨kept.reverse, by simpa using hroot, fun part hpart => ?_⟩
  exact (hkept part (List.mem_reverse.1 hpart)).resolve_left List.not_mem_nil

theorem normalizePath_rooted {path : Text} (h : IsRooted path) :
    IsNormal (normalizePath path) ∧ IsRooted (normalizePath path) ∧ normalizePath path ⊆ path := by
  rcases h with rfl | ⟨rest, rfl⟩
  · exact ⟨by decide, .inl rfl, List.nil_subset _⟩
  · have hsplit : Text.splitOn slash (slash :: rest) = [] :: Text.splitOn slash rest :=
      Text.splitOn_append_cons [] rest
    obtain ⟨kept, hkept, hall⟩ := exists_normalizeParts_root (Text.splitOn slash rest)
    have hpath : normalizePath (slash :: rest) = Text.join [slash] ([] :: kept) := by
      unfold normalizePath
      rw [hsplit, hkept]
      rfl
    have hparts : Text.splitOn slash (Text.join [slash] ([] :: kept)) = [] :: kept := by
      refine Text.splitOn_join (fun piece hpiece hmem => ?_) (List.cons_ne_nil _ _)
      rcases List.mem_cons.1 hpiece with rfl | hpiece
      · contradiction
      · exact (Text.mem_of_mem_splitOn (hall piece hpiece).1 hmem).2 rfl
    rw [hpath]
    refine ⟨?_, ?_, fun c hc => ?_⟩
    · unfold IsNormal
      rw [hparts]
      intro part hpart
      rcases List.mem_cons.1 hpart with rfl | hpart
      · decide
      · exact (hall part hpart).2
    · cases kept with
      | nil => exact .inl rfl
      | cons part kept => exact .inr ⟨part ++ kept.flatMap ([slash] ++ ·), rfl⟩
    · rcases Text.mem_join hc with rfl | ⟨piece, hpiece, hmem⟩
      · exact List.mem_cons_self
      · rcases List.mem_cons.1 hpiece with rfl | hpiece
        · contradiction
        · exact List.mem_cons_of_mem _ (Text.mem_of_mem_splitOn (hall piece hpiece).1 hmem).1

end NodePanel.Url
