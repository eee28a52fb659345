import NodePanel.EnvFile.Bindings
import NodePanel.Proofs.Text.Basic

/-!
Settings files are read line by line as long as no quotation mark makes a value run on over the end
of a line. Every reader treats a line in front of other text as it treats the line alone, and what it
leaves unread is an end of what it was given.
-/
namespace NodePanel.EnvFile

def newline : CodePoint := '\n'

def IsBare (l : Text) : Prop :=
  ∀ c ∈ l, c ≠ newline ∧ c ≠ CodePoint.ofChar '\'' ∧ c ≠ CodePoint.ofChar '"'

instance : DecidablePred IsBare := fun l => inferInstanceAs (Decidable (∀ c ∈ l, _))

variable {t l rest : Text}

theorem IsBare.of_subset (h : IsBare t) (hl : l ⊆ t) : IsBare l := fun c hc => h c (hl hc)

theorem isNewline_of_ne {c : CodePoint} (h : c ≠ newline) : isNewline c = false := decide_eq_false h

@[simp] theorem isInlineBlank_newline : isInlineBlank newline = false := by decide

@[simp] theorem isKeyPoint_newline : isKeyPoint newline = false := by decide

/-! What is left unread -/

theorem dropInlineBlanks_suffix : dropInlineBlanks t <:+ t := List.dropWhile_suffix _

theorem dropExport_suffix : dropExport t <:+ t := by
  unfold dropExport
  dsimp only
  split
  · split
    · exact dropInlineBlanks_suffix.trans (List.drop_suffix _ _)
    · exact List.suffix_rfl
  · exact List.suffix_rfl

theorem suffix_of_cutQuote? {quote : CodePoint} {escaped : Bool} {before after : Text}
    (h : cutQuote? quote escaped t = some (before, after)) : after <:+ t := by
  induction t generalizing escaped before with
  | nil => contradiction
  | cons c t ih =>
    unfold cutQuote? at h
    split at h
    next =>
      cases h
      exact List.suffix_cons _ _
    next =>
      obtain ⟨⟨inner, after'⟩, hcut, heq⟩ := Option.map_eq_some_iff.1 h
      cases heq
      exact (ih hcut).trans (List.suffix_cons _ _)

theorem readKey_suffix : remainder Prod.snd (readKey t) <:+ t := by
  unfold readKey
  split
  next => exact List.suffix_rfl
  next c rest =>
    split
    next =>
      split
      next key after hcut =>
        obtain ⟨hrest, -⟩ := Text.cut?_eq_some_iff.1 hcut
        split
        next => exact List.suffix_rfl
        next => exact ⟨c :: key ++ [CodePoint.ofChar '\''], by simp [hrest, remainder]⟩
      next => exact List.suffix_rfl
    next =>
      split
      next => exact List.dropWhile_suffix _
      next => exact List.suffix_rfl

theorem readValue_suffix : remainder Prod.snd (readValue t) <:+ t := by
  unfold readValue
  split
  next => exact List.suffix_rfl
  next c rest =>
    split
    next =>
      split
      next hcut => exact (suffix_of_cutQuote? hcut).trans (List.suffix_cons _ _)
      next => exact List.suffix_rfl
    next =>
      split
      next =>
        split
        next hcut => exact (suffix_of_cutQuote? hcut).trans (List.suffix_cons _ _)
        next => exact List.suffix_rfl
      next => exact List.dropWhile_suffix _

@[simp] theorem remainder_map {α β : Type} {f : α → β} {left : β → Text} {x : Except Stuck α} :
    remainder left (x.map f) = remainder (left ∘ f) x := by
  cases x <;> rfl

theorem readAssignment_suffix : remainder Prod.snd (readAssignment t) <:+ t := by
  unfold readAssignment
  split
  next c rest =>
    dsimp only
    split
    next =>
      have hblanks : dropInlineBlanks rest <:+ c :: rest :=
        dropInlineBlanks_suffix.trans (List.suffix_cons _ _)
      split
      next => exact hblanks
      next =>
        rw [remainder_map]
        exact readValue_suffix.trans hblanks
    next => exact List.suffix_rfl
  next => exact List.suffix_rfl

/-- What is left of a line when a comment is taken off its end. -/
def dropLineComment (t : Text) : Text :=
  if (dropInlineBlanks t).head? == some (CodePoint.ofChar '#') then
    (dropInlineBlanks t).dropWhile (!isNewline ·)
  else t

theorem dropLineComment_suffix : dropLineComment t <:+ t := by
  unfold dropLineComment
  split
  · exact (List.dropWhile_suffix _).trans dropInlineBlanks_suffix
  · exact List.suffix_rfl

theorem readLineEnd_eq (t : Text) :
    readLineEnd t =
      match dropInlineBlanks (dropLineComment t) with
      | [] => .ok []
      | c :: rest => if isNewline c then .ok rest else .error (dropLineComment t) := rfl

theorem readLineEnd_suffix : remainder id (readLineEnd t) <:+ t := by
  rw [readLineEnd_eq]
  split
  next => exact List.nil_suffix
  next c rest hdrop =>
    split
    next =>
      have hrest : rest <:+ dropInlineBlanks (dropLineComment t) := hdrop ▸ List.suffix_cons _ _
      exact hrest.trans (dropInlineBlanks_suffix.trans dropLineComment_suffix)
    next => exact dropLineComment_suffix

private theorem readAfterKey_suffix : remainder Prod.snd (readAfterKey t) <:+ t := by
  have hassignment := (readAssignment_suffix (t := dropInlineBlanks t)).trans dropInlineBlanks_suffix
  unfold readAfterKey
  cases hread : readAssignment (dropInlineBlanks t) with
  | error stuck =>
    rw [hread] at hassignment
    exact hassignment
  | ok found =>
    rw [hread] at hassignment
    dsimp only
    rw [remainder_map]
    exact readLineEnd_suffix.trans hassignment

theorem readBinding_suffix : remainder Prod.snd (readBinding t) <:+ t := by
  have hkey := (readKey_suffix (t := dropExport t)).trans dropExport_suffix
  unfold readBinding
  cases hread : readKey (dropExport t) with
  | error stuck =>
    rw [hread] at hkey
    exact hkey
  | ok found =>
    rw [hread] at hkey
    dsimp only
    rw [remainder_map]
    exact readAfterKey_suffix.trans hkey

/-! A line in front of other text -/

def extend (more : Text) : Except Stuck (α × Text) → Except Stuck (α × Text)
  | .ok (a, left) => .ok (a, left ++ more)
  | .error stuck => .error (stuck ++ more)

private theorem extend_map {α β : Type} {f : α → β} {more : Text} {x : Except Stuck (α × Text)} :
    (extend more x).map (fun (a, left) => (f a, left)) =
      extend more (x.map fun (a, left) => (f a, left)) := by
  cases x <;> rfl

@[simp] theorem dropInlineBlanks_line :
    dropInlineBlanks (l ++ newline :: rest) = dropInlineBlanks l ++ newline :: rest :=
  Text.dropWhile_append_stop isInlineBlank_newline

theorem head?_any_line {p : CodePoint → Bool} (h : p newline = false) :
    (l ++ newline :: rest).head?.any p = l.head?.any p := by
  cases l with
  | nil => exact h
  | cons c l => rfl

theorem head?_beq_line {c : CodePoint} (h : newline ≠ c) :
    ((l ++ newline :: rest).head? == some c) = (l.head? == some c) := by
  cases l with
  | nil => exact beq_eq_false_iff_ne.2 fun heq => h (Option.some.inj heq)
  | cons d l => rfl

private theorem isPrefixOf_line {word : Text} (h : newline ∉ word) :
    word.isPrefixOf (l ++ newline :: rest) = word.isPrefixOf l := by
  induction word generalizing l with
  | nil => rfl
  | cons c word ih =>
    have hc : (c == newline) = false :=
      beq_eq_false_iff_ne.2 (List.ne_of_not_mem_cons h).symm
    cases l with
    | nil =>
      show (c == newline && word.isPrefixOf rest) = false
      rw [hc]
      rfl
    | cons d l =>
      rw [List.cons_append, List.isPrefixOf_cons_cons, List.isPrefixOf_cons_cons,
        ih (List.not_mem_of_not_mem_cons h)]

@[simp] theorem dropExport_line :
    dropExport (l ++ newline :: rest) = dropExport l ++ newline :: rest := by
  have hword : newline ∉ Text.ofString "export" := by decide
  unfold dropExport
  dsimp only
  rw [isPrefixOf_line hword]
  split
  next hprefix =>
    have hlength := (List.isPrefixOf_iff_prefix.1 hprefix).length_le
    rw [List.drop_append_of_le_length hlength, head?_any_line isInlineBlank_newline]
    split
    · exact dropInlineBlanks_line
    · rfl
  next => rfl

private theorem readKey_line (h : IsBare l) :
    readKey (l ++ newline :: rest) = extend (newline :: rest) (readKey l) := by
  cases l with
  | nil => rfl
  | cons c l =>
    have hquote := (h c List.mem_cons_self).2.1
    unfold readKey
    simp only [List.cons_append, if_neg hquote]
    rw [← List.cons_append, Text.takeWhile_append_stop isKeyPoint_newline,
      Text.dropWhile_append_stop isKeyPoint_newline]
    split <;> rfl

private theorem readValue_line (h : IsBare l) :
    readValue (l ++ newline :: rest) = extend (newline :: rest) (readValue l) := by
  cases l with
  | nil => rfl
  | cons c l =>
    obtain ⟨-, hsingle, hdouble⟩ := h c List.mem_cons_self
    unfold readValue
    simp only [List.cons_append, if_neg hsingle, if_neg hdouble]
    rw [← List.cons_append, Text.takeWhile_append_stop (by decide),
      Text.dropWhile_append_stop (by decide)]
    rfl

private theorem readAssignment_line (h : IsBare l) :
    readAssignment (l ++ newline :: rest) = extend (newline :: rest) (readAssignment l) := by
  cases l with
  | nil => rfl
  | cons c l =>
    have hblanks : IsBare (dropInlineBlanks l) := h.of_subset fun d hd =>
      List.mem_cons_of_mem _ (dropInlineBlanks_suffix.subset hd)
    unfold readAssignment
    simp only [List.cons_append]
    rw [dropInlineBlanks_line, head?_any_line isInlineBlank_newline, head?_beq_line (by decide)]
    split
    · split
      · rfl
      · rw [readValue_line hblanks, extend_map]
    · rfl

/-- Where the reading of a line alone would end, it goes on after the line. -/
def goOn (rest : Text) : Except Stuck Text → Except Stuck Text
  | .ok _ => .ok rest
  | .error stuck => .error (stuck ++ newline :: rest)

@[simp] theorem dropLineComment_line :
    dropLineComment (l ++ newline :: rest) = dropLineComment l ++ newline :: rest := by
  unfold dropLineComment
  rw [dropInlineBlanks_line, head?_beq_line (by decide)]
  split
  · exact Text.dropWhile_append_stop (by decide)
  · rfl

theorem readLineEnd_line (h : newline ∉ l) :
    readLineEnd (l ++ newline :: rest) = goOn rest (readLineEnd l) := by
  rw [readLineEnd_eq, readLineEnd_eq, dropLineComment_line, dropInlineBlanks_line]
  cases hdrop : dropInlineBlanks (dropLineComment l) with
  | nil => rfl
  | cons c left =>
    have hc : isNewline c = false := by
      have hmem : c ∈ l := by
        apply (dropInlineBlanks_suffix.trans dropLineComment_suffix).subset
        rw [hdrop]
        exact List.mem_cons_self
      exact isNewline_of_ne (ne_of_mem_of_not_mem hmem h)
    simp [hc, goOn]

theorem newline_not_mem_of_suffix (h : IsBare l) {left : Text} (hleft : left <:+ l) :
    newline ∉ left := fun hmem => (h _ (hleft.subset hmem)).1 rfl

private theorem readAfterKey_line (h : IsBare l) :
    readAfterKey (l ++ newline :: rest) =
      match readAfterKey l with
      | .ok (value, _) => .ok (value, rest)
      | .error stuck => .error (stuck ++ newline :: rest) := by
  have hblanks : IsBare (dropInlineBlanks l) := h.of_subset dropInlineBlanks_suffix.subset
  have hsuffix := (readAssignment_suffix (t := dropInlineBlanks l)).trans dropInlineBlanks_suffix
  unfold readAfterKey
  rw [dropInlineBlanks_line, readAssignment_line hblanks]
  cases hread : readAssignment (dropInlineBlanks l) with
  | error stuck => rfl
  | ok found =>
    obtain ⟨value, left⟩ := found
    rw [hread] at hsuffix
    change left <:+ l at hsuffix
    simp only [extend]
    rw [readLineEnd_line (newline_not_mem_of_suffix h hsuffix)]
    cases readLineEnd left <;> rfl

private theorem readBinding_line (h : IsBare l) :
    readBinding (l ++ newline :: rest) =
      match readBinding l with
      | .ok (binding, _) => .ok (binding, rest)
      | .error stuck => .error (stuck ++ newline :: rest) := by
  have hexport : IsBare (dropExport l) := h.of_subset dropExport_suffix.subset
  have hsuffix := (readKey_suffix (t := dropExport l)).trans dropExport_suffix
  unfold readBinding
  rw [dropExport_line, readKey_line hexport]
  cases hread : readKey (dropExport l) with
  | error stuck => rfl
  | ok found =>
    obtain ⟨key, left⟩ := found
    rw [hread] at hsuffix
    change left <:+ l at hsuffix
    simp only [extend]
    rw [readAfterKey_line (h.of_subset hsuffix.subset)]
    cases readAfterKey left <;> rfl

theorem skipLine_line (h : newline ∉ l) : skipLine (l ++ newline :: rest) = rest := by
  have hall : ∀ c ∈ l, (!isNewline c) = true := fun c hc => by
    rw [isNewline_of_ne (ne_of_mem_of_not_mem hc h)]
    rfl
  unfold skipLine
  rw [List.dropWhile_append_of_pos hall]
  rfl

/-- A line is read by itself, whatever comes behind it. -/
theorem nextBinding_line (h : IsBare l) :
    nextBinding (l ++ newline :: rest) = ((nextBinding l).1, rest) := by
  have hsuffix := readBinding_suffix (t := l)
  unfold nextBinding
  rw [readBinding_line h]
  cases hread : readBinding l with
  | error stuck =>
    rw [hread] at hsuffix
    change stuck <:+ l at hsuffix
    dsimp only
    rw [skipLine_line (newline_not_mem_of_suffix h hsuffix)]
  | ok found => rfl

/-! Whole texts -/

theorem bindings_of_blank (h : t.dropWhile CodePoint.isBlank = []) : bindings t = [] := by
  rw [bindings]
  split
  next => rfl
  next c rest hdrop =>
    rw [h] at hdrop
    contradiction

theorem bindings_of_cons {c : CodePoint} (h : t.dropWhile CodePoint.isBlank = c :: rest) :
    bindings t = (nextBinding (c :: rest)).1.toList ++ bindings (nextBinding (c :: rest)).2 := by
  rw [bindings]
  split
  next hdrop =>
    rw [h] at hdrop
    contradiction
  next c' rest' hdrop =>
    rw [h] at hdrop
    cases hdrop
    rfl

theorem bindings_congr {u : Text}
    (h : t.dropWhile CodePoint.isBlank = u.dropWhile CodePoint.isBlank) :
    bindings t = bindings u := by
  cases hdrop : u.dropWhile CodePoint.isBlank with
  | nil => rw [bindings_of_blank (h.trans hdrop), bindings_of_blank hdrop]
  | cons c rest => rw [bindings_of_cons (h.trans hdrop), bindings_of_cons hdrop]

def bindingOfLine? (l : Text) : Option Binding := (nextBinding (l.dropWhile CodePoint.isBlank)).1

theorem bindings_line (h : IsBare l) :
    bindings (l ++ newline :: rest) = (bindingOfLine? l).toList ++ bindings rest := by
  have hsuffix := List.dropWhile_suffix (l := l) CodePoint.isBlank
  unfold bindingOfLine?
  cases hdrop : l.dropWhile CodePoint.isBlank with
  | nil =>
    refine bindings_congr ?_
    rw [List.dropWhile_append, hdrop, List.isEmpty_nil, if_pos rfl]
    exact List.dropWhile_cons_of_pos (by decide)
  | cons c left =>
    rw [hdrop] at hsuffix
    have happend : (l ++ newline :: rest).dropWhile CodePoint.isBlank =
        c :: (left ++ newline :: rest) := by
      rw [List.dropWhile_append, hdrop]
      rfl
    rw [bindings_of_cons happend, ← List.cons_append,
      nextBinding_line (h.of_subset hsuffix.subset)]

end NodePanel.EnvFile
