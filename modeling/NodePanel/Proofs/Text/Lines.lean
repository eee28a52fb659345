import NodePanel.Text.Lines

/-!
What the lines of a text are made of, and the texts whose line breaks are left as they are.
-/
namespace NodePanel.Text

private theorem unifyBreaks_go_of_no_return {t : Text} (h : CodePoint.ofChar '\r' ∉ t)
    (done : Text) :
    unifyBreaks.go t false done = done.reverse ++ t := by
  induction t generalizing done with
  | nil => simp [unifyBreaks.go]
  | cons c rest ih =>
    have hc : c ≠ CodePoint.ofChar '\r' := (List.ne_of_not_mem_cons h).symm
    have hrest := List.not_mem_of_not_mem_cons h
    unfold unifyBreaks.go
    rw [if_neg hc]
    split
    next hnewline =>
      rw [ih hrest, hnewline]
      simp
    next =>
      rw [ih hrest]
      simp

theorem unifyBreaks_of_no_return {t : Text} (h : CodePoint.ofChar '\r' ∉ t) : unifyBreaks t = t :=
  unifyBreaks_go_of_no_return h []

private theorem mem_of_unifyBreaks_go {t done : Text} {afterReturn : Bool} {c : CodePoint}
    (h : c ∈ unifyBreaks.go t afterReturn done) : c ∈ t ∨ c ∈ done ∨ c = CodePoint.ofChar '\n' := by
  induction t generalizing afterReturn done with
  | nil => exact .inr (.inl (List.mem_reverse.1 h))
  | cons d rest ih =>
    unfold unifyBreaks.go at h
    split at h
    next =>
      rcases ih h with hrest | hdone | hnewline
      · exact .inl (List.mem_cons_of_mem _ hrest)
      · rcases List.mem_cons.1 hdone with hnewline | hdone
        · exact .inr (.inr hnewline)
        · exact .inr (.inl hdone)
      · exact .inr (.inr hnewline)
    next =>
      split at h
      next hnewline =>
        rcases ih h with hrest | hdone | hc
        · exact .inl (List.mem_cons_of_mem _ hrest)
        · split at hdone
          · exact .inr (.inl hdone)
          · rcases List.mem_cons.1 hdone with hc | hdone
            · exact .inr (.inr hc)
            · exact .inr (.inl hdone)
        · exact .inr (.inr hc)
      next =>
        rcases ih h with hrest | hdone | hc
        · exact .inl (List.mem_cons_of_mem _ hrest)
        · rcases List.mem_cons.1 hdone with rfl | hdone
          · exact .inl List.mem_cons_self
          · exact .inr (.inl hdone)
        · exact .inr (.inr hc)

theorem mem_of_unifyBreaks {t : Text} {c : CodePoint} (h : c ∈ unifyBreaks t) :
    c ∈ t ∨ c = CodePoint.ofChar '\n' := by
  rcases mem_of_unifyBreaks_go h with ht | hnil | hnewline
  · exact .inl ht
  · contradiction
  · exact .inr hnewline

/-- A part of a line of a text: its code points are from the text, and none is a line break. -/
def IsLineOf (t line : Text) : Prop := ∀ c ∈ line, c ∈ t ∧ c.isLineBreak = false

private theorem isLineOf_splitLines_go {whole t line : Text} {afterReturn : Bool} {done : List Text}
    (ht : ∀ c ∈ t, c ∈ whole) (hline : IsLineOf whole line)
    (hdone : ∀ l ∈ done, IsLineOf whole l) :
    ∀ l ∈ splitLines.go t line afterReturn done, IsLineOf whole l := by
  have hreverse : IsLineOf whole line.reverse := fun c hc => hline c (List.mem_reverse.1 hc)
  induction t generalizing line afterReturn done with
  | nil =>
    intro l hl
    unfold splitLines.go at hl
    split at hl
    · exact hdone l (List.mem_reverse.1 hl)
    · rcases List.mem_cons.1 (List.mem_reverse.1 hl) with rfl | hl
      · exact hreverse
      · exact hdone l hl
  | cons c rest ih =>
    have hrest : ∀ d ∈ rest, d ∈ whole := fun d hd => ht d (List.mem_cons_of_mem _ hd)
    have hempty : IsLineOf whole [] := fun _ hd => by contradiction
    unfold splitLines.go
    split
    · exact ih hrest hempty hdone hempty
    · split
      · refine ih hrest hempty (fun l hl => ?_) hempty
        rcases List.mem_cons.1 hl with rfl | hl
        · exact hreverse
        · exact hdone l hl
      next hbreak =>
        have hcons : IsLineOf whole (c :: line) := by
          intro d hd
          rcases List.mem_cons.1 hd with rfl | hd
          · exact ⟨ht d List.mem_cons_self, Bool.eq_false_iff.2 hbreak⟩
          · exact hline d hd
        exact ih hrest hcons hdone fun d hd => hcons d (List.mem_reverse.1 hd)

theorem isLineOf_splitLines {t l : Text} (h : l ∈ splitLines t) : IsLineOf t l :=
  isLineOf_splitLines_go (fun _ hc => hc) (fun _ hc => by contradiction) (fun _ hl => by contradiction)
    l h

theorem IsLineOf.of_subset {t line part : Text} (h : IsLineOf t line) (hpart : part ⊆ line) :
    IsLineOf t part := fun c hc => h c (hpart hc)

/-! Lines that only a newline ends -/

private theorem splitLines_go_done (t line : Text) (afterReturn : Bool) (done : List Text) :
    splitLines.go t line afterReturn done = done.reverse ++ splitLines.go t line afterReturn [] := by
  induction t generalizing line afterReturn done with
  | nil =>
    unfold splitLines.go
    split <;> simp
  | cons c rest ih =>
    unfold splitLines.go
    split
    · exact ih [] false done
    · split
      · rw [ih [] _ (line.reverse :: done), ih [] _ [line.reverse]]
        simp
      · exact ih (c :: line) false done

theorem splitLines_go_append {l : Text} (h : ∀ c ∈ l, c.isLineBreak = false) (rest line : Text) :
    splitLines.go (l ++ rest) line false [] = splitLines.go rest (l.reverse ++ line) false [] := by
  induction l generalizing line with
  | nil => rfl
  | cons c l ih =>
    have hc := h c List.mem_cons_self
    have hstep : splitLines.go (c :: (l ++ rest)) line false [] =
        splitLines.go (l ++ rest) (c :: line) false [] := by
      rw [splitLines.go]
      simp [hc]
    rw [List.cons_append, hstep, ih fun d hd => h d (List.mem_cons_of_mem _ hd), List.reverse_cons,
      List.append_assoc]
    rfl

theorem splitLines_line {l : Text} (h : ∀ c ∈ l, c.isLineBreak = false) (rest : Text) :
    splitLines (l ++ CodePoint.ofChar '\n' :: rest) = l :: splitLines rest := by
  have hgo : splitLines.go (CodePoint.ofChar '\n' :: rest) l.reverse false [] =
      splitLines.go rest [] false [l.reverse.reverse] := rfl
  unfold splitLines
  rw [splitLines_go_append h, List.append_nil, hgo, splitLines_go_done, List.reverse_reverse]
  rfl

theorem splitLines_of_no_break {l : Text} (h : ∀ c ∈ l, c.isLineBreak = false) :
    splitLines l = if l.isEmpty then [] else [l] := by
  have hgo := splitLines_go_append h [] []
  rw [List.append_nil, List.append_nil] at hgo
  unfold splitLines
  rw [hgo]
  unfold splitLines.go
  cases l <;> simp

end NodePanel.Text
