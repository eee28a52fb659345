import NodePanel.Proofs.EnvFile.Bindings
import NodePanel.Proofs.EnvFile.Written

/-!
Assignments as they stand in settings files: a name, an equals sign and a value, with blanks between
them, up to the end of a line or of the text. A value without a quotation mark in front is what is
left when a comment and blanks are dropped from its end.
-/
namespace NodePanel.EnvFile

variable {key name value gap gap' tail rest l : Text}

def IsGap (gap : Text) : Prop := ∀ c ∈ gap, isInlineBlank c = true

instance : DecidablePred IsGap := fun gap =>
  inferInstanceAs (Decidable (∀ c ∈ gap, isInlineBlank c = true))

theorem isGap_nil : IsGap [] := fun _ hc => nomatch hc

inductive IsTail : Text → Prop where
  | nil : IsTail []
  | line (rest : Text) : IsTail (newline :: rest)

def nextLine (tail : Text) : Text := tail.drop 1

@[simp] theorem nextLine_nil : nextLine [] = [] := rfl

theorem dropInlineBlanks_gap (hgap : IsGap gap) (hrest : rest.head?.any isInlineBlank = false) :
    dropInlineBlanks (gap ++ rest) = rest :=
  Text.dropWhile_append hgap hrest

theorem IsTail.head?_any (h : IsTail tail) : tail.head?.any isInlineBlank = false := by
  cases h <;> rfl

theorem IsTail.head?_ne (h : IsTail tail) {c : CodePoint} (hc : c ≠ newline) :
    tail.head? ≠ some c := by
  cases h with
  | nil => exact nofun
  | line rest => exact fun heq => hc (Option.some.inj heq).symm

theorem dropWhile_line (hl : newline ∉ l) (htail : IsTail tail) :
    (l ++ tail).dropWhile (!isNewline ·) = tail := by
  have hall : ∀ c ∈ l, (!isNewline c) = true := fun c hc => by
    rw [isNewline_of_ne (ne_of_mem_of_not_mem hc hl)]
    rfl
  rw [List.dropWhile_append_of_pos hall]
  cases htail <;> rfl

theorem readLineEnd_gap (hgap : IsGap gap) (htail : IsTail tail) :
    readLineEnd (gap ++ tail) = .ok (nextLine tail) := by
  have hdrop := dropInlineBlanks_gap hgap htail.head?_any
  have hcomment : dropLineComment (gap ++ tail) = gap ++ tail := by
    have hmark := htail.head?_ne (show CodePoint.ofChar '#' ≠ newline by decide)
    unfold dropLineComment
    rw [hdrop, if_neg (by simpa using hmark)]
  rw [readLineEnd_eq, hcomment, hdrop]
  cases htail with
  | nil => rfl
  | line rest => rfl

/-! Names -/

private theorem readKey_append (hname : IsName name) (hrest : rest.head?.any isKeyPoint = false) :
    readKey (name ++ rest) = .ok (name, rest) := by
  have htake := Text.takeWhile_append hname.isKeyPoint hrest
  have hdrop := Text.dropWhile_append hname.isKeyPoint hrest
  obtain ⟨c, name, rfl⟩ := List.exists_cons_of_ne_nil hname.ne_nil
  have hquote : c ≠ CodePoint.ofChar '\'' := fun heq => hname.not_quote (congrArg some heq)
  rw [List.cons_append] at htake hdrop ⊢
  unfold readKey
  simp only [if_neg hquote]
  rw [if_pos (hname.isKeyPoint c List.mem_cons_self), htake, hdrop]

theorem isKeyPoint_of_isInlineBlank {c : CodePoint} (h : isInlineBlank c = true) :
    isKeyPoint c = false := by
  simp [isKeyPoint, (Bool.and_eq_true_iff.1 h).1]

def exportWord : Text := "export"

private theorem dropExport_name (hname : IsName name) (hexport : name ≠ exportWord)
    (hrest : rest.head?.any isKeyPoint = false) : dropExport (name ++ rest) = name ++ rest := by
  unfold dropExport
  dsimp only
  split
  next hprefix =>
    obtain ⟨left, hleft⟩ := List.isPrefixOf_iff_prefix.1 hprefix
    have hdrop : (name ++ rest).drop exportWord.length = left := by
      rw [← hleft]
      exact List.drop_left
    split
    next hblank =>
      change ((name ++ rest).drop exportWord.length).head?.any isInlineBlank = true at hblank
      rw [hdrop] at hblank
      have hleftPoint : left.head?.any isKeyPoint = false := by
        cases left with
        | nil => rfl
        | cons c left =>
          exact isKeyPoint_of_isInlineBlank hblank
      have hword : IsName exportWord := ⟨by decide, by decide, by decide⟩
      have htake := Text.takeWhile_append hword.isKeyPoint hleftPoint
      change exportWord ++ left = name ++ rest at hleft
      rw [hleft, Text.takeWhile_append hname.isKeyPoint hrest] at htake
      exact absurd htake hexport
    next => rfl
  next => rfl

theorem IsName.head?_any (hname : IsName name) : (name ++ rest).head?.any isInlineBlank = false := by
  obtain ⟨c, name, rfl⟩ := List.exists_cons_of_ne_nil hname.ne_nil
  exact isInlineBlank_of_isBlank (isBlank_of_isKeyPoint (hname.isKeyPoint c List.mem_cons_self))

private theorem dropExport_word (rest : Text) :
    dropExport (exportWord ++ rest) =
      if rest.head?.any isInlineBlank then dropInlineBlanks rest else exportWord ++ rest := by
  have hword : exportWord.isPrefixOf (exportWord ++ rest) = true :=
    List.isPrefixOf_iff_prefix.2 (List.prefix_append _ _)
  have hdrop : (exportWord ++ rest).drop exportWord.length = rest := List.drop_left
  unfold dropExport
  change (if exportWord.isPrefixOf (exportWord ++ rest) then
    if ((exportWord ++ rest).drop exportWord.length).head?.any isInlineBlank then
      dropInlineBlanks ((exportWord ++ rest).drop exportWord.length)
    else exportWord ++ rest else exportWord ++ rest) = _
  rw [hdrop, if_pos hword]

private theorem dropExport_exported (hgap : IsGap gap) (hne : gap ≠ []) (hname : IsName name) :
    dropExport (exportWord ++ (gap ++ name) ++ rest) = name ++ rest := by
  have hblank : (gap ++ (name ++ rest)).head?.any isInlineBlank = true := by
    obtain ⟨c, gap, rfl⟩ := List.exists_cons_of_ne_nil hne
    exact hgap c List.mem_cons_self
  rw [List.append_assoc, List.append_assoc, dropExport_word, if_pos hblank,
    dropInlineBlanks_gap hgap hname.head?_any]

/-- A name as it stands in front of an equals sign, with or without the word `export`. -/
inductive IsKey : Text → Text → Prop where
  | plain {name : Text} (hname : IsName name) (hexport : name ≠ exportWord) : IsKey name name
  | exported {gap name : Text} (hgap : IsGap gap) (hne : gap ≠ []) (hname : IsName name) :
      IsKey (exportWord ++ (gap ++ name)) name

theorem IsKey.isName (h : IsKey key name) : IsName name := by
  cases h with
  | plain hname => exact hname
  | exported _ _ hname => exact hname

theorem IsKey.dropExport (h : IsKey key name) (hrest : rest.head?.any isKeyPoint = false) :
    dropExport (key ++ rest) = name ++ rest := by
  cases h with
  | plain hname hexport => exact dropExport_name hname hexport hrest
  | exported hgap hne hname => exact dropExport_exported hgap hne hname

theorem IsKey.dropExport_eq (h : IsKey key name) : EnvFile.dropExport key = name := by
  have hdrop : EnvFile.dropExport (key ++ []) = name ++ [] := h.dropExport rfl
  rwa [List.append_nil, List.append_nil] at hdrop

theorem IsKey.head (h : IsKey key name) :
    ∃ c rest, key = c :: rest ∧ c.isBlank = false ∧ c ≠ CodePoint.ofChar '#' := by
  cases h with
  | plain hname hexport =>
    obtain ⟨c, rest, rfl⟩ := List.exists_cons_of_ne_nil hname.ne_nil
    have hc := hname.isKeyPoint c List.mem_cons_self
    refine ⟨c, rest, rfl, isBlank_of_isKeyPoint hc, ?_⟩
    rintro rfl
    exact absurd hc (by decide)
  | exported hgap hne hname => exact ⟨CodePoint.ofChar 'e', _, rfl, by decide, by decide⟩

/-! Assignments -/

private theorem readAssignment_gap (hgap : IsGap gap)
    (hblank : rest.head?.any isInlineBlank = false)
    (hcomment : gap = [] ∨ rest.head? ≠ some (CodePoint.ofChar '#')) :
    readAssignment (CodePoint.ofChar '=' :: (gap ++ rest)) =
      (readValue rest).map fun found => (some found.1, found.2) := by
  have hnot : ((gap ++ rest).head?.any isInlineBlank &&
      rest.head? == some (CodePoint.ofChar '#')) = false := by
    rcases hcomment with rfl | hmark
    · rw [List.nil_append, hblank]
      rfl
    · rw [beq_eq_false_iff_ne.2 hmark, Bool.and_false]
  unfold readAssignment
  simp only [if_true]
  rw [dropInlineBlanks_gap hgap hblank, hnot]
  rfl

theorem readBinding_key (hkey : IsKey key name) (hgap : IsGap gap) (rest : Text) :
    readBinding (key ++ (gap ++ CodePoint.ofChar '=' :: rest)) =
      match readAssignment (CodePoint.ofChar '=' :: rest) with
      | .error stuck => .error stuck
      | .ok (value, after) => (readLineEnd after).map fun left => ((name, value), left) := by
  have hpoint : (gap ++ CodePoint.ofChar '=' :: rest).head?.any isKeyPoint = false := by
    cases gap with
    | nil => rfl
    | cons c gap => exact isKeyPoint_of_isInlineBlank (hgap c List.mem_cons_self)
  unfold readBinding
  rw [hkey.dropExport hpoint, readKey_append hkey.isName hpoint]
  dsimp only
  unfold readAfterKey
  rw [dropInlineBlanks_gap hgap rfl]
  cases readAssignment (CodePoint.ofChar '=' :: rest) with
  | error stuck => rfl
  | ok found =>
    obtain ⟨value, after⟩ := found
    show ((readLineEnd after).map (value, ·)).map _ = (readLineEnd after).map _
    cases readLineEnd after <;> rfl

theorem readBinding_assignment (hkey : IsKey key name) (hgap : IsGap gap) (hgap' : IsGap gap')
    (hblank : rest.head?.any isInlineBlank = false)
    (hcomment : gap' = [] ∨ rest.head? ≠ some (CodePoint.ofChar '#')) :
    readBinding (key ++ (gap ++ CodePoint.ofChar '=' :: (gap' ++ rest))) =
      match readValue rest with
      | .error stuck => .error stuck
      | .ok (value, after) => (readLineEnd after).map fun left => ((name, some value), left) := by
  rw [readBinding_key hkey hgap, readAssignment_gap hgap' hblank hcomment]
  cases readValue rest <;> rfl

/-! Values without quotation marks in front -/

def bareValue (value : Text) : Text := Text.dropEndWhile CodePoint.isBlank (dropComment value)

def IsUnquoted (value : Text) : Prop :=
  ∀ c ∈ value.head?, c ≠ CodePoint.ofChar '\'' ∧ c ≠ CodePoint.ofChar '"'

instance : DecidablePred IsUnquoted := fun value =>
  inferInstanceAs (Decidable (∀ c ∈ value.head?, _))

theorem isUnquoted_nil : IsUnquoted [] := by decide

private theorem readValue_bare (hvalue : newline ∉ value) (hquote : IsUnquoted value)
    (htail : IsTail tail) :
    readValue (value ++ tail) = .ok (bareValue value, tail) := by
  have hall : ∀ c ∈ value, (!isNewline c) = true := fun c hc => by
    rw [isNewline_of_ne (ne_of_mem_of_not_mem hc hvalue)]
    rfl
  have htake : (value ++ tail).takeWhile (!isNewline ·) = value := by
    rw [List.takeWhile_append_of_pos hall]
    cases htail with
    | nil => exact List.append_nil value
    | line rest => exact List.append_nil value
  have hdrop := dropWhile_line hvalue htail
  have hhead : IsUnquoted (value ++ tail) := by
    cases value with
    | cons c value => exact hquote
    | nil =>
      cases htail with
      | nil => exact nofun
      | line rest =>
        rintro _ ⟨⟩
        decide
  unfold readValue
  split
  next hnil =>
    obtain ⟨rfl, rfl⟩ := List.append_eq_nil_iff.1 hnil
    rfl
  next c left hcons =>
    obtain ⟨hsingle, hdouble⟩ := hhead c (by rw [hcons]; rfl)
    rw [if_neg hsingle, if_neg hdouble, htake, hdrop]
    rfl

theorem nextBinding_bare (hkey : IsKey key name) (hgap : IsGap gap) (hgap' : IsGap gap')
    (hvalue : newline ∉ value) (hquote : IsUnquoted value)
    (hblank : value.head?.any isInlineBlank = false)
    (hcomment : gap' = [] ∨ value.head? ≠ some (CodePoint.ofChar '#')) (htail : IsTail tail) :
    nextBinding (key ++ (gap ++ CodePoint.ofChar '=' :: (gap' ++ (value ++ tail)))) =
      (some (name, some (bareValue value)), nextLine tail) := by
  have hrest : (value ++ tail).head?.any isInlineBlank = false := by
    cases value with
    | nil => exact htail.head?_any
    | cons c value => exact hblank
  have hmark : gap' = [] ∨ (value ++ tail).head? ≠ some (CodePoint.ofChar '#') := by
    refine hcomment.imp_right fun hne => ?_
    cases value with
    | nil => exact htail.head?_ne (by decide)
    | cons c value => exact hne
  have hend : readLineEnd tail = .ok (nextLine tail) := readLineEnd_gap isGap_nil htail
  unfold nextBinding
  rw [readBinding_assignment hkey hgap hgap' hrest hmark, readValue_bare hvalue hquote htail]
  dsimp only
  rw [hend]
  rfl

/-! Comments -/

def IsUncommented (value : Text) : Prop :=
  ∀ before c after, value = before ++ c :: CodePoint.ofChar '#' :: after → c.isBlank = false

theorem IsUncommented.of_cons {c : CodePoint} (h : IsUncommented (c :: value)) :
    IsUncommented value := fun before d after hsplit =>
  h (c :: before) d after (by rw [hsplit, List.cons_append])

theorem IsSolid.isUncommented (h : IsSolid value) : IsUncommented value := by
  rintro before c after rfl
  exact h c (List.mem_append_right _ List.mem_cons_self)

private theorem isPrefix_dropComment (value : Text) : dropComment value <+: value := by
  induction value with
  | nil => exact List.prefix_rfl
  | cons c value ih =>
    unfold dropComment
    split
    · exact List.nil_prefix
    · exact (List.cons_prefix_cons).2 ⟨rfl, ih⟩

theorem dropComment_of_uncommented (h : IsUncommented value) : dropComment value = value := by
  induction value with
  | nil => rfl
  | cons c value ih =>
    unfold dropComment
    rw [ih h.of_cons]
    split
    next hcomment =>
      obtain ⟨hblank, hmark⟩ := Bool.and_eq_true_iff.1 hcomment
      obtain ⟨after, hafter⟩ := List.head?_eq_some_iff.1 (beq_iff_eq.1 hmark)
      have hsplit := List.takeWhile_append_dropWhile (p := CodePoint.isBlank) (l := value)
      have hblanks : ∀ d ∈ c :: value.takeWhile CodePoint.isBlank, d.isBlank = true :=
        List.forall_mem_cons.2 ⟨hblank, List.all_eq_true.1 List.all_takeWhile⟩
      obtain ⟨before, last, hlast⟩ :=
        (List.eq_nil_or_concat (c :: value.takeWhile CodePoint.isBlank)).resolve_left
          (List.cons_ne_nil _ _)
      have hfound : c :: value = before ++ last :: CodePoint.ofChar '#' :: after := by
        rw [← hsplit, hafter, ← List.cons_append, hlast, List.concat_append]
      have hmem : last ∈ c :: value.takeWhile CodePoint.isBlank := by simp [hlast]
      have hnot := h before last after hfound
      rw [hblanks last hmem] at hnot
      contradiction
    next => rfl

private theorem isBlank_of_isInlineBlank {c : CodePoint} (h : isInlineBlank c = true) :
    c.isBlank = true :=
  (Bool.and_eq_true_iff.1 h).1

theorem IsGap.isBlank (h : IsGap gap) : ∀ c ∈ gap, c.isBlank = true := fun c hc =>
  isBlank_of_isInlineBlank (h c hc)

theorem IsGap.append (h : IsGap gap) (h' : IsGap gap') : IsGap (gap ++ gap') := fun c hc =>
  (List.mem_append.1 hc).elim (h c) (h' c)

private theorem exists_dropComment_append (hgap : IsGap gap) (value : Text) :
    ∃ left, IsGap left ∧ dropComment (value ++ gap) = dropComment value ++ left := by
  induction value with
  | nil =>
    refine ⟨gap, hgap, dropComment_of_uncommented fun before c after hsplit => ?_⟩
    have hmark := hgap.isBlank (CodePoint.ofChar '#') (by rw [← List.nil_append gap, hsplit]; simp)
    exact absurd hmark (by decide)
  | cons c value ih =>
    -- whether a comment starts depends on what comes after the blanks, which is never in the gap
    have hnext : ((value ++ gap).dropWhile CodePoint.isBlank).head? =
        (value.dropWhile CodePoint.isBlank).head? := by
      rw [List.dropWhile_append]
      split
      next hempty => rw [List.isEmpty_iff.1 hempty, Text.dropWhile_of_pos hgap.isBlank]
      next hleft =>
        cases hdrop : value.dropWhile CodePoint.isBlank with
        | nil => exact absurd (List.isEmpty_iff.2 hdrop) hleft
        | cons d left => rfl
    rw [List.cons_append]
    unfold dropComment
    rw [hnext]
    split
    · exact ⟨[], isGap_nil, rfl⟩
    · obtain ⟨left, hleft, heq⟩ := ih
      exact ⟨left, hleft, congrArg (c :: ·) heq⟩

theorem bareValue_append_gap (hgap : IsGap gap) (value : Text) :
    bareValue (value ++ gap) = bareValue value := by
  obtain ⟨left, hleft, heq⟩ := exists_dropComment_append hgap value
  unfold bareValue
  rw [heq, Text.dropEndWhile_append_of_pos hleft.isBlank]

private theorem length_dropComment_lt {before after : Text} {c : CodePoint}
    (hc : c.isBlank = true) :
    (dropComment (before ++ c :: CodePoint.ofChar '#' :: after)).length <
      (before ++ c :: CodePoint.ofChar '#' :: after).length := by
  induction before with
  | nil =>
    have hmark : ((CodePoint.ofChar '#' :: after).dropWhile CodePoint.isBlank).head? =
        some (CodePoint.ofChar '#') := rfl
    have hdrop : dropComment (c :: CodePoint.ofChar '#' :: after) = [] := by
      unfold dropComment
      rw [hc, hmark]
      rfl
    rw [List.nil_append, hdrop]
    exact Nat.succ_pos _
  | cons d before ih =>
    rw [List.cons_append]
    unfold dropComment
    split
    · exact Nat.succ_pos _
    · exact Nat.succ_lt_succ ih

theorem isPrefix_bareValue (value : Text) : bareValue value <+: value :=
  Text.dropEndWhile_prefix.trans (isPrefix_dropComment value)

theorem bareValue_cons {c : CodePoint} (hc : c.isBlank = false) (value : Text) :
    bareValue (c :: value) = c :: bareValue value := by
  have hcomment : dropComment (c :: value) = [] ++ c :: dropComment value := by
    rw [dropComment, hc]
    rfl
  unfold bareValue
  rw [hcomment, Text.dropEndWhile_append_cons hc]
  rfl

theorem bareValue_eq_nil_iff (h : Text.IsTrimmed CodePoint.isBlank value) :
    bareValue value = [] ↔ value = [] := by
  cases value with
  | nil => exact iff_of_true rfl rfl
  | cons c value =>
    rw [bareValue_cons h.head]
    exact iff_of_false (List.cons_ne_nil _ _) (List.cons_ne_nil _ _)

theorem isTrimmed_bareValue (h : Text.IsTrimmed CodePoint.isBlank value) :
    Text.IsTrimmed CodePoint.isBlank (bareValue value) where
  head := by
    cases value with
    | nil => rfl
    | cons c value =>
      rw [bareValue_cons h.head]
      exact h.head
  last := (Option.any_eq_false _ _).2 fun _ hc => Text.getLast?_dropEndWhile hc

theorem bareValue_eq_self_iff (hend : Text.dropEndWhile CodePoint.isBlank value = value) :
    bareValue value = value ↔ IsUncommented value := by
  constructor
  · intro h before c after hsplit
    refine Bool.eq_false_iff.2 fun hc => ?_
    have hlt : (dropComment value).length < value.length := by
      rw [hsplit]
      exact length_dropComment_lt hc
    have hle : (bareValue value).length ≤ (dropComment value).length :=
      Text.dropEndWhile_prefix.length_le
    rw [h] at hle
    omega
  · intro h
    unfold bareValue
    rw [dropComment_of_uncommented h, hend]

theorem IsSolid.bareValue (h : IsSolid value) : bareValue value = value :=
  (bareValue_eq_self_iff h.dropEndWhile).2 h.isUncommented

theorem bindingOfLine?_line (hkey : IsKey key name) (hvalue : IsSolid value)
    (hquote : IsUnquoted value) : bindingOfLine? (line (key, value)) = some (name, some value) := by
  have hnewline : newline ∉ value := fun hmem => absurd (hvalue _ hmem) (by decide)
  have hline : line (key, value) =
      key ++ ([] ++ CodePoint.ofChar '=' :: ([] ++ (value ++ []))) := by simp [line]
  have hfront : (line (key, value)).dropWhile CodePoint.isBlank = line (key, value) := by
    obtain ⟨c, rest, rfl, hc, -⟩ := hkey.head
    exact List.dropWhile_cons_of_neg (by simp [hc])
  unfold bindingOfLine?
  rw [hfront, hline, nextBinding_bare hkey isGap_nil isGap_nil hnewline hquote hvalue.head?_any
    (.inl rfl) .nil, hvalue.bareValue]

end NodePanel.EnvFile
