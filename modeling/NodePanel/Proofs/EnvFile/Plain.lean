import NodePanel.Proofs.EnvFile.Interpolation
import NodePanel.Proofs.EnvFile.Kept

/-!
Plain files: blank lines, comments, and assignments of values without quotation marks that name no
variable. Such a file binds the variables to what stands behind the equals signs, line by line.
-/
namespace NodePanel.EnvFile

variable {key name value gap gap' rest tail l t : Text} {found : Option (Text × Text)}
  {assigned : List (Text × Text)}

def numberSign : CodePoint := '#'

/-! Comments behind values -/

private theorem dropComment_commented (hend : value.getLast?.any CodePoint.isBlank = false)
    (hvalue : IsUncommented value) (hgap : IsGap gap) (hne : gap ≠ []) (rest : Text) :
    dropComment (value ++ (gap ++ numberSign :: rest)) = value := by
  induction value with
  | nil =>
    obtain ⟨c, gap, rfl⟩ := List.exists_cons_of_ne_nil hne
    obtain ⟨hc, hblanks⟩ := List.forall_mem_cons.1 hgap.isBlank
    have hmark : (gap ++ numberSign :: rest).dropWhile CodePoint.isBlank = numberSign :: rest :=
      Text.dropWhile_append hblanks (show numberSign.isBlank = false by decide)
    show dropComment (c :: (gap ++ numberSign :: rest)) = []
    unfold dropComment
    rw [hmark, hc]
    rfl
  | cons c value ih =>
    have hkept := dropComment_of_uncommented hvalue
    unfold dropComment at hkept
    rw [List.cons_append]
    unfold dropComment
    cases value with
    | nil =>
      -- the last code point of the value is no blank, so no comment starts with it
      have hc : c.isBlank = false := hend
      rw [hc, ih rfl hvalue.of_cons]
      rfl
    | cons d value =>
      have hend' : (d :: value).getLast?.any CodePoint.isBlank = false := by
        rwa [List.getLast?_cons_cons] at hend
      obtain ⟨e, left, hleft⟩ : ∃ e left, (d :: value).dropWhile CodePoint.isBlank = e :: left := by
        refine List.exists_cons_of_ne_nil fun hnil => ?_
        have hlast := List.getLast_mem (List.cons_ne_nil d value)
        have hblank := List.dropWhile_eq_nil_iff.1 hnil _ hlast
        rw [List.getLast?_eq_some_getLast (List.cons_ne_nil d value)] at hend'
        exact Bool.noConfusion (hblank.symm.trans hend')
      have hfront : (d :: value ++ (gap ++ numberSign :: rest)).dropWhile CodePoint.isBlank =
          e :: left ++ (gap ++ numberSign :: rest) := by
        rw [List.dropWhile_append, hleft]
        rfl
      rw [hleft] at hkept
      rw [hfront, ih hend' hvalue.of_cons]
      split at hkept
      next => contradiction
      next hnot => exact if_neg hnot

private theorem bareValue_commented (htrimmed : Text.IsTrimmed CodePoint.isBlank value)
    (hvalue : IsUncommented value) (hgap : IsGap gap) (hne : gap ≠ []) (rest : Text) :
    bareValue (value ++ (gap ++ numberSign :: rest)) = value := by
  unfold bareValue
  rw [dropComment_commented htrimmed.last hvalue hgap hne, htrimmed.dropEndWhile]

private theorem readAssignment_comment (hgap : IsGap gap) (hne : gap ≠ []) (rest : Text) :
    readAssignment (CodePoint.ofChar '=' :: (gap ++ numberSign :: rest)) =
      .ok (some [], numberSign :: rest) := by
  have hdrop : dropInlineBlanks (gap ++ numberSign :: rest) = numberSign :: rest :=
    dropInlineBlanks_gap hgap (show isInlineBlank numberSign = false by decide)
  have hblank : (gap ++ numberSign :: rest).head?.any isInlineBlank = true := by
    obtain ⟨c, gap, rfl⟩ := List.exists_cons_of_ne_nil hne
    exact hgap c List.mem_cons_self
  unfold readAssignment
  simp only [if_true]
  rw [hdrop, hblank]
  rfl

private theorem readLineEnd_comment (hrest : newline ∉ numberSign :: rest) (htail : IsTail tail) :
    readLineEnd (numberSign :: (rest ++ tail)) = .ok (nextLine tail) := by
  have hskip : (numberSign :: rest ++ tail).dropWhile (!isNewline ·) = tail :=
    dropWhile_line hrest htail
  have hcomment : dropLineComment (numberSign :: rest ++ tail) = tail := hskip
  have hdrop : dropInlineBlanks tail = tail :=
    dropInlineBlanks_gap isGap_nil htail.head?_any
  rw [← List.cons_append, readLineEnd_eq, hcomment, hdrop]
  cases htail with
  | nil => rfl
  | line rest => rfl

private theorem nextBinding_comment_only (hkey : IsKey key name) (hgap : IsGap gap)
    (hgap' : IsGap gap')
    (hne : gap' ≠ []) (hrest : newline ∉ numberSign :: rest) (htail : IsTail tail) :
    nextBinding (key ++ (gap ++ CodePoint.ofChar '=' :: (gap' ++ numberSign :: (rest ++ tail)))) =
      (some (name, some []), nextLine tail) := by
  unfold nextBinding
  rw [readBinding_key hkey hgap, readAssignment_comment hgap' hne]
  dsimp only
  rw [readLineEnd_comment hrest htail]
  rfl

/-! Lines -/

/-- A value without quotation marks that is read as it is written. -/
structure IsPlainValue (value : Text) : Prop where
  isTrimmed : Text.IsTrimmed CodePoint.isBlank value
  isUnquoted : IsUnquoted value
  isUncommented : IsUncommented value
  isLiteral : IsLiteral value

theorem IsSolid.isPlainValue (h : IsSolid value) (hquote : IsUnquoted value)
    (hdollar : dollar ∉ value) :
    IsPlainValue value where
  isTrimmed := Text.isTrimmed_of_forall h
  isUnquoted := hquote
  isUncommented := h.isUncommented
  isLiteral := isLiteral_of_no_dollar hdollar

/-- A plain line, and the name and the value that it assigns. -/
inductive PlainLine : Text → Option (Text × Text) → Prop where
  | blank {gap : Text} (hgap : IsGap gap) : PlainLine gap none
  | comment {gap : Text} (rest : Text) (hgap : IsGap gap) : PlainLine (gap ++ numberSign :: rest) none
  | assignment {key name value : Text} (g : Spacing) (hkey : IsKey key name)
      (hvalue : IsPlainValue value)
      (hcomment : g.behindSign = [] ∨ value.head? ≠ some numberSign) :
      PlainLine (g.assignment key value) (some (name, value))
  | commented {key name value gap : Text} (rest : Text) (g : Spacing) (hkey : IsKey key name)
      (hvalue : IsPlainValue value)
      (hcomment : g.behindSign = [] ∨ value.head? ≠ some numberSign)
      (hgap : IsGap gap) (hne : gap ≠ []) :
      PlainLine (g.assignment key (value ++ (gap ++ numberSign :: rest))) (some (name, value))

def bindingOf (assigned : Text × Text) : Binding := (assigned.1, some assigned.2)

theorem PlainLine.bindings (h : PlainLine l found) (hl : newline ∉ l) (htail : IsTail tail) :
    bindings (l ++ tail) = (found.map bindingOf).toList ++ bindings (nextLine tail) := by
  cases h with
  | blank hgap => exact (KeptLine.blank hgap).bindings hl htail
  | comment rest hgap => exact (KeptLine.comment rest hgap).bindings hl htail
  | @assignment key name value g hkey hvalue hcomment =>
    have hbare : bareValue value = value :=
      (bareValue_eq_self_iff hvalue.isTrimmed.dropEndWhile).2 hvalue.isUncommented
    rw [g.bindings_bare hkey hvalue.isUnquoted hvalue.isTrimmed.head hcomment hl htail, hbare]
    rfl
  | @commented key name value gap rest g hkey hvalue hcomment hgap hne =>
    cases value with
    | nil =>
      -- all that is behind the equals sign is blanks and the comment
      have hrest : newline ∉ numberSign :: (rest ++ g.trail) := fun hmem =>
        hl (by simp only [Spacing.assignment, List.mem_append, List.mem_cons] at hmem ⊢; tauto)
      have hbinding := nextBinding_comment_only hkey g.isGap_beforeSign
        (g.isGap_behindSign.append hgap) (by simp [hne]) hrest htail
      have hassigned : g.behindSign ++ ([] ++ (gap ++ numberSign :: rest) ++ g.trail ++ tail) =
          g.behindSign ++ gap ++ numberSign :: (rest ++ g.trail ++ tail) := by simp
      rw [g.bindings_assignment hkey, hassigned, hbinding]
      rfl
    | cons c value =>
      have hbare := bareValue_commented hvalue.isTrimmed hvalue.isUncommented hgap hne rest
      have hunquoted : IsUnquoted (c :: value ++ (gap ++ numberSign :: rest)) := hvalue.isUnquoted
      rw [g.bindings_bare hkey hunquoted hvalue.isTrimmed.head hcomment hl htail, hbare]
      rfl

/-! Texts -/

inductive PlainText : Text → List (Text × Text) → Prop where
  | last {l : Text} {found : Option (Text × Text)} (hl : PlainLine l found) (hline : newline ∉ l) :
      PlainText l found.toList
  | line {l t : Text} {found : Option (Text × Text)} {assigned : List (Text × Text)}
      (hl : PlainLine l found) (hline : newline ∉ l) (ht : PlainText t assigned) :
      PlainText (l ++ newline :: t) (found.toList ++ assigned)

theorem PlainText.bindings (h : PlainText t assigned) : bindings t = assigned.map bindingOf := by
  induction h with
  | @last l found hl hline =>
    have hbindings := hl.bindings hline .nil
    cases found <;> simpa using hbindings
  | @line l t found assigned hl hline ht ih =>
    rw [hl.bindings hline (.line t)]
    show _ ++ EnvFile.bindings t = _
    rw [ih]
    cases found <;> rfl

theorem PlainLine.isLiteral {e : Text × Text} (h : PlainLine l (some e)) : IsLiteral e.2 := by
  cases h with
  | assignment _ _ hvalue => exact hvalue.isLiteral
  | commented _ _ _ hvalue => exact hvalue.isLiteral

theorem PlainText.isLiteral (h : PlainText t assigned) : ∀ e ∈ assigned, IsLiteral e.2 := by
  induction h with
  | @last l found hl hline =>
    rintro e he
    obtain rfl := Option.mem_toList.1 he
    exact hl.isLiteral
  | @line l t found assigned hl hline ht ih =>
    intro e he
    rcases List.mem_append.1 he with he | he
    · obtain rfl := Option.mem_toList.1 he
      exact hl.isLiteral
    · exact ih e he

end NodePanel.EnvFile
