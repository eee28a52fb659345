import NodePanel.Proofs.EnvFile.Quoted

/-!
Lines that mean the same to the program, which takes quotation marks off without looking into values,
and to the reader of settings, which looks for comments and escapes. A text of such lines binds what
the program finds in it, and so does the text that is written of that.
-/
namespace NodePanel.EnvFile

variable {key name value l t tail : Text} {entry : Text × Text} {found : Option (Text × Text)}
  {entries : Keyed Text}

/-! Keys -/

theorem IsKey.not_mem (h : IsKey key name) : CodePoint.ofChar '=' ∉ key := by
  have hname : CodePoint.ofChar '=' ∉ name := fun hc =>
    absurd (h.isName.isKeyPoint _ hc) (by decide)
  cases h with
  | plain => exact hname
  | exported hgap hne _ =>
    intro hc
    rcases List.mem_append.1 hc with hc | hc
    · exact absurd hc (by decide)
    · rcases List.mem_append.1 hc with hc | hc
      · exact absurd (hgap _ hc) (by decide)
      · exact hname hc

theorem IsKey.isTrimmed (h : IsKey key name) : Text.IsTrimmed CodePoint.isBlank key := by
  have hname : name.getLast?.any CodePoint.isBlank = false := by
    refine (Option.any_eq_false _ _).2 fun c hc => ?_
    exact isBlank_of_isKeyPoint (h.isName.isKeyPoint c (List.mem_of_getLast? hc))
  obtain ⟨c, rest, hfirst, hc, -⟩ := h.head
  refine ⟨by rw [hfirst]; exact hc, ?_⟩
  cases h with
  | plain => exact hname
  | exported hgap hne hname' =>
    rw [← List.append_assoc, List.getLast?_append]
    rw [List.getLast?_eq_some_getLast hname'.ne_nil] at hname ⊢
    exact hname

/-! Assignments with blanks in them -/

structure Spacing where
  lead : Text
  beforeSign : Text
  behindSign : Text
  trail : Text
  isGap_lead : IsGap lead
  isGap_beforeSign : IsGap beforeSign
  isGap_behindSign : IsGap behindSign
  isGap_trail : IsGap trail

namespace Spacing

def none : Spacing := ⟨[], [], [], [], isGap_nil, isGap_nil, isGap_nil, isGap_nil⟩

def assignment (g : Spacing) (key written : Text) : Text :=
  g.lead ++ (key ++ (g.beforeSign ++ CodePoint.ofChar '=' ::
    (g.behindSign ++ (written ++ g.trail))))

@[simp] theorem assignment_none : none.assignment key value = line (key, value) := by
  simp [assignment, none, line]

end Spacing

theorem ofLine?_assignment (g : Spacing) (hkey : IsKey key name) (written : Text) :
    ofLine? (g.assignment key written) =
      some (key, unquoteEnds (g.behindSign ++ (written ++ g.trail))) := by
  let rhs := g.behindSign ++ (written ++ g.trail)
  have hstrip : Text.strip (g.assignment key written) = key ++ g.beforeSign ++
      CodePoint.ofChar '=' :: Text.dropEndWhile CodePoint.isBlank rhs := by
    obtain ⟨c, rest, rfl, hc, -⟩ := hkey.head
    have hfront : (g.assignment (c :: rest) written).dropWhile CodePoint.isBlank =
        c :: rest ++ g.beforeSign ++ CodePoint.ofChar '=' :: rhs := by
      rw [List.append_assoc]
      exact Text.dropWhile_append g.isGap_lead.isBlank hc
    unfold Text.strip Text.trim
    rw [hfront]
    exact Text.dropEndWhile_append_cons (by decide)
  have hcut : Text.cut? '=' (Text.strip (g.assignment key written)) =
      some (key ++ g.beforeSign, Text.dropEndWhile CodePoint.isBlank rhs) := by
    refine Text.cut?_eq_some_iff.2 ⟨hstrip, fun hmem => ?_⟩
    rcases List.mem_append.1 hmem with hmem | hmem
    · exact hkey.not_mem hmem
    · exact absurd (g.isGap_beforeSign _ hmem) (by decide)
  have hstripKey : Text.strip (key ++ g.beforeSign) = key :=
    Text.trim_append isGap_nil.isBlank g.isGap_beforeSign.isBlank hkey.isTrimmed
  obtain ⟨c, rest, rfl, -, hmark⟩ := hkey.head
  have hcomment :
      (Text.strip (g.assignment (c :: rest) written)).head?.any isCommentMark = false := by
    rw [hstrip]
    exact decide_eq_false hmark
  have hvalue : unquoteEnds (Text.dropEndWhile CodePoint.isBlank rhs) = unquoteEnds rhs := by
    unfold unquoteEnds Text.strip
    rw [Text.trim_dropEndWhile]
  unfold ofLine?
  dsimp only
  rw [hcomment, hcut]
  dsimp only
  rw [hstripKey, hvalue]
  rfl

/-! Variables -/

/-- A variable that is written as it was found: there are neither blanks nor quotation marks at the
ends of its value. -/
structure IsClear (entry : Text × Text) : Prop where
  isKey : IsKey entry.1 (dropExport entry.1)
  blank : Text.IsTrimmed CodePoint.isBlank entry.2
  single : Text.IsTrimmed isSingleQuote entry.2
  double : Text.IsTrimmed isDoubleQuote entry.2

theorem IsClear.isUnquoted (h : IsClear entry) : IsUnquoted entry.2 := by
  intro c hc
  have hsingle := (Option.any_eq_false _ _).1 h.single.head c hc
  have hdouble := (Option.any_eq_false _ _).1 h.double.head c hc
  exact ⟨of_decide_eq_false hsingle, of_decide_eq_false hdouble⟩

theorem IsClear.unquoteEnds (h : IsClear entry) (g : Spacing) :
    unquoteEnds (g.behindSign ++ (entry.2 ++ g.trail)) = entry.2 := by
  unfold EnvFile.unquoteEnds Text.strip
  rw [Text.trim_append g.isGap_behindSign.isBlank g.isGap_trail.isBlank h.blank, h.double.trim,
    h.single.trim]

private theorem IsClear.unquoteEnds_inQuotes {quote : CodePoint} (h : IsClear entry) (g : Spacing)
    (hkind : quote = CodePoint.ofChar '\'' ∨ quote = CodePoint.ofChar '"') :
    EnvFile.unquoteEnds (g.behindSign ++ (quote :: (entry.2 ++ [quote]) ++ g.trail)) = entry.2 := by
  have hends {p : CodePoint → Bool} (hp : p quote = false) :
      Text.IsTrimmed p (quote :: (entry.2 ++ [quote])) := by
    refine ⟨hp, ?_⟩
    rw [← List.cons_append, List.getLast?_concat]
    exact hp
  have hmarks {p : CodePoint → Bool} (hp : p quote = true) (hentry : Text.IsTrimmed p entry.2) :
      Text.trim p (quote :: (entry.2 ++ [quote])) = entry.2 := by
    have hquote : ∀ c ∈ [quote], p c = true := fun c hc => (List.mem_singleton.1 hc).symm ▸ hp
    exact Text.trim_append hquote hquote hentry
  have hblank : quote.isBlank = false := by
    rcases hkind with rfl | rfl <;> decide
  unfold EnvFile.unquoteEnds Text.strip
  rw [Text.trim_append g.isGap_behindSign.isBlank g.isGap_trail.isBlank (hends hblank)]
  rcases hkind with rfl | rfl
  · rw [(hends (by decide)).trim, hmarks (by decide) h.single]
  · rw [hmarks (by decide) h.double, h.single.trim]

/-! Lines -/

/-- A line that the program and the reader of settings take for the same variable, or for none. -/
inductive KeptLine : Text → Option (Text × Text) → Prop where
  | blank {gap : Text} (hgap : IsGap gap) : KeptLine gap none
  | comment {gap : Text} (rest : Text) (hgap : IsGap gap) :
      KeptLine (gap ++ CodePoint.ofChar '#' :: rest) none
  | bare {entry : Text × Text} (g : Spacing) (hentry : IsClear entry)
      (hcomment : g.behindSign = [] ∨ entry.2.head? ≠ some (CodePoint.ofChar '#')) :
      KeptLine (g.assignment entry.1 entry.2) (some entry)
  | inQuotes {entry : Text × Text} {quote : CodePoint} (g : Spacing) (hentry : IsClear entry)
      (hkind : quote = CodePoint.ofChar '\'' ∨ quote = CodePoint.ofChar '"')
      (hquote : quote ∉ entry.2) (hescape : backslash ∉ entry.2)
      (hcomment : IsUncommented entry.2) :
      KeptLine (g.assignment entry.1 (quote :: (entry.2 ++ [quote]))) (some entry)

theorem KeptLine.isClear (h : KeptLine l (some entry)) : IsClear entry := by
  cases h with
  | bare _ hentry => exact hentry
  | inQuotes _ hentry => exact hentry

theorem KeptLine.ofLine? (h : KeptLine l found) : ofLine? l = found := by
  cases h with
  | blank hgap =>
    have hstrip : Text.strip l = [] := by
      unfold Text.strip Text.trim
      rw [Text.dropWhile_of_pos hgap.isBlank]
      rfl
    unfold EnvFile.ofLine?
    rw [hstrip]
    rfl
  | @comment gap rest hgap =>
    have hmark : (CodePoint.ofChar '#').isBlank = false := by decide
    have hfront : (gap ++ CodePoint.ofChar '#' :: rest).dropWhile CodePoint.isBlank =
        [] ++ CodePoint.ofChar '#' :: rest := Text.dropWhile_append hgap.isBlank hmark
    have hstrip : Text.strip (gap ++ CodePoint.ofChar '#' :: rest) =
        CodePoint.ofChar '#' :: Text.dropEndWhile CodePoint.isBlank rest := by
      unfold Text.strip Text.trim
      rw [hfront, Text.dropEndWhile_append_cons hmark]
      rfl
    unfold EnvFile.ofLine?
    rw [hstrip]
    rfl
  | bare g hentry => rw [ofLine?_assignment g hentry.isKey, hentry.unquoteEnds g]
  | inQuotes g hentry hkind =>
    rw [ofLine?_assignment g hentry.isKey, hentry.unquoteEnds_inQuotes g hkind]

/-! What the reader of settings takes a line for -/

def boundBy (entry : Text × Text) : Binding := (dropExport entry.1, some (bareValue entry.2))

theorem bindings_gap_append {gap : Text} {c : CodePoint} {rest : Text} (hgap : IsGap gap)
    (hc : c.isBlank = false) : bindings (gap ++ c :: rest) =
      (nextBinding (c :: rest)).1.toList ++ bindings (nextBinding (c :: rest)).2 :=
  bindings_of_cons (Text.dropWhile_append hgap.isBlank hc)

private theorem nextBinding_comment {rest : Text} (hrest : newline ∉ rest) (htail : IsTail tail) :
    nextBinding (CodePoint.ofChar '#' :: (rest ++ tail)) = (none, nextLine tail) := by
  have hread : readBinding (CodePoint.ofChar '#' :: (rest ++ tail)) =
      .error (CodePoint.ofChar '#' :: (rest ++ tail)) := rfl
  have hl : newline ∉ CodePoint.ofChar '#' :: rest := fun hmem =>
    (List.mem_cons.1 hmem).elim (by decide) hrest
  have hdrop : (CodePoint.ofChar '#' :: rest ++ tail).dropWhile (!isNewline ·) = tail :=
    dropWhile_line hl htail
  unfold nextBinding
  rw [hread]
  exact congrArg (Prod.mk none) (congrArg (List.drop 1) hdrop)

theorem Spacing.bindings_assignment (g : Spacing) (hkey : IsKey key name) (written tail : Text) :
    let assigned := key ++ (g.beforeSign ++ CodePoint.ofChar '=' ::
      (g.behindSign ++ (written ++ g.trail ++ tail)))
    bindings (g.assignment key written ++ tail) =
      (nextBinding assigned).1.toList ++ bindings (nextBinding assigned).2 := by
  obtain ⟨c, rest, rfl, hc, -⟩ := hkey.head
  have hline : g.assignment (c :: rest) written ++ tail =
      g.lead ++ c :: (rest ++ (g.beforeSign ++ CodePoint.ofChar '=' ::
        (g.behindSign ++ (written ++ g.trail ++ tail)))) := by
    simp [assignment]
  rw [hline, bindings_gap_append g.isGap_lead hc]
  rfl

theorem Spacing.bindings_bare (g : Spacing) (hkey : IsKey key name) (hquote : IsUnquoted value)
    (hblank : value.head?.any CodePoint.isBlank = false)
    (hcomment : g.behindSign = [] ∨ value.head? ≠ some (CodePoint.ofChar '#'))
    (hline : newline ∉ g.assignment key value) (htail : IsTail tail) :
    bindings (g.assignment key value ++ tail) =
      (name, some (bareValue value)) :: bindings (nextLine tail) := by
  have hvalue : newline ∉ value ++ g.trail := fun hmem =>
    hline (by simp only [assignment, List.mem_append, List.mem_cons] at hmem ⊢; tauto)
  have hbinding : nextBinding (key ++ (g.beforeSign ++ CodePoint.ofChar '=' ::
      (g.behindSign ++ (value ++ g.trail ++ tail)))) =
        (some (name, some (bareValue value)), nextLine tail) := by
    cases value with
    | nil =>
      -- without a value there are only blanks behind the equals sign
      have hgap := g.isGap_behindSign.append g.isGap_trail
      have hbinding := nextBinding_bare hkey g.isGap_beforeSign hgap List.not_mem_nil nofun rfl
        (.inr nofun) htail
      rwa [List.append_assoc, List.nil_append] at hbinding
    | cons c value =>
      have hunquoted : IsUnquoted (c :: value ++ g.trail) := hquote
      have hbinding := nextBinding_bare hkey g.isGap_beforeSign g.isGap_behindSign hvalue
        hunquoted (isInlineBlank_of_isBlank hblank) hcomment htail
      rwa [bareValue_append_gap g.isGap_trail] at hbinding
  rw [g.bindings_assignment hkey, hbinding]
  rfl

theorem KeptLine.bindings (h : KeptLine l found) (hl : newline ∉ l) (htail : IsTail tail) :
    bindings (l ++ tail) = (found.map boundBy).toList ++ bindings (nextLine tail) := by
  cases h with
  | blank hgap =>
    refine bindings_congr ?_
    rw [List.dropWhile_append_of_pos hgap.isBlank]
    cases htail with
    | nil => rfl
    | line rest => exact List.dropWhile_cons_of_pos (by decide)
  | @comment gap rest hgap =>
    have hrest : newline ∉ rest := fun hmem =>
      hl (List.mem_append_right _ (List.mem_cons_of_mem _ hmem))
    rw [List.append_assoc, List.cons_append, bindings_gap_append hgap (by decide),
      nextBinding_comment hrest htail]
    rfl
  | @bare entry g hentry hcomment =>
    exact g.bindings_bare hentry.isKey hentry.isUnquoted hentry.blank.head hcomment hl htail
  | @inQuotes entry quote g hentry hkind hquote hescape hcomment =>
    have hassigned : quote :: (entry.2 ++ [quote]) ++ g.trail ++ tail =
        quote :: (entry.2 ++ quote :: (g.trail ++ tail)) := by simp
    have hbound : boundBy entry = (dropExport entry.1, some entry.2) := by
      rw [boundBy, (bareValue_eq_self_iff hentry.blank.dropEndWhile).2 hcomment]
    rw [g.bindings_assignment hentry.isKey, hassigned, nextBinding_inQuotes hentry.isKey
      g.isGap_beforeSign g.isGap_behindSign g.isGap_trail hkind hquote hescape htail, ← hbound]
    rfl

/-! Texts -/

def IsOneLine (l : Text) : Prop := ∀ c ∈ l, c.isLineBreak = false

instance : DecidablePred IsOneLine := fun l =>
  inferInstanceAs (Decidable (∀ c ∈ l, c.isLineBreak = false))

theorem IsOneLine.newline_not_mem (h : IsOneLine l) : newline ∉ l := fun hmem =>
  absurd (h _ hmem) (by decide)

theorem isOneLine_line (hkey : IsOneLine entry.1) (hvalue : IsOneLine entry.2) :
    IsOneLine (line entry) := by
  intro c hc
  rcases List.mem_append.1 hc with hc | hc
  · exact hkey c hc
  · rcases List.mem_cons.1 hc with rfl | hc
    · decide
    · exact hvalue c hc

/-- A text of lines that are kept, and the variables in it. -/
inductive Kept : Text → Keyed Text → Prop where
  | last {l : Text} {found : Option (Text × Text)} (hl : KeptLine l found) (hline : IsOneLine l) :
      Kept l found.toList
  | line {l t : Text} {found : Option (Text × Text)} {entries : Keyed Text}
      (hl : KeptLine l found) (hline : IsOneLine l) (ht : Kept t entries) :
      Kept (l ++ newline :: t) (found.toList ++ entries)

theorem Kept.filterMap_ofLine? (h : Kept t entries) :
    (Text.splitLines t).filterMap ofLine? = entries := by
  induction h with
  | @last l found hl hline =>
    have hfound := hl.ofLine?
    rw [Text.splitLines_of_no_break hline]
    split
    next hempty =>
      rw [List.isEmpty_iff.1 hempty] at hfound
      rw [← hfound]
      rfl
    next =>
      rw [List.filterMap_cons, hfound]
      cases found <;> rfl
  | @line l t found entries hl hline ht ih =>
    rw [newline, Text.splitLines_line hline, List.filterMap_cons, hl.ofLine?, ih]
    cases found <;> rfl

theorem Kept.bindings (h : Kept t entries) : bindings t = entries.map boundBy := by
  induction h with
  | @last l found hl hline =>
    have hbindings := hl.bindings hline.newline_not_mem .nil
    cases found <;> simpa using hbindings
  | @line l t found entries hl hline ht ih =>
    rw [hl.bindings hline.newline_not_mem (.line t)]
    show _ ++ EnvFile.bindings t = _
    rw [ih]
    cases found <;> rfl

theorem Kept.isClear (h : Kept t entries) : ∀ entry ∈ entries, IsClear entry := by
  induction h with
  | @last l found hl hline =>
    rintro entry hentry
    obtain rfl := Option.mem_toList.1 hentry
    exact hl.isClear
  | @line l t found entries hl hline ht ih =>
    intro entry hentry
    rcases List.mem_append.1 hentry with hentry | hentry
    · obtain rfl := Option.mem_toList.1 hentry
      exact hl.isClear
    · exact ih entry hentry

/-! What is written -/

private theorem kept_lines (h : ∀ entry ∈ entries, IsClear entry ∧ IsOneLine (line entry)) :
    Kept (lines (entries.map line)) entries := by
  induction entries with
  | nil => exact .last (.blank isGap_nil) fun _ hc => nomatch hc
  | cons entry entries ih =>
    obtain ⟨hclear, hline⟩ := h entry List.mem_cons_self
    have hbare : KeptLine (line entry) (some entry) := by
      rw [← Spacing.assignment_none]
      exact .bare .none hclear (.inl rfl)
    have hrest := ih fun entry hentry => h entry (List.mem_cons_of_mem _ hentry)
    rw [List.map_cons, lines_cons]
    exact .line hbare hline hrest

theorem kept_toText (h : ∀ entry ∈ entries, IsClear entry ∧ IsOneLine (line entry)) :
    Kept (toText entries) entries.sorted := by
  have hheading : KeptLine heading none := .comment " sakura-panel user config (.env)" isGap_nil
  have hline : IsOneLine heading := fun c hc => (isPlain_heading c hc).2
  have hsorted := kept_lines fun entry hentry => h entry (mem_sorted.1 hentry)
  rw [toText_eq_lines, lines_cons]
  exact .line hheading hline hsorted

end NodePanel.EnvFile
