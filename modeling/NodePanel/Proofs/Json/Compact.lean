import NodePanel.Proofs.Json.Lexemes
import NodePanel.Text.Blank

/-!
The compact text of a value. It stays on one line and has no controls, and all blanks in it are those
of the texts in the value: none stands outside the string literals.
-/
namespace NodePanel.Json

/-- Where a code point of JSON text stands: outside of the string literals, inside of one, or after a
backslash in one. -/
inductive LiteralPlace where
  | outside
  | inside
  | escaped

def outsideFrom : LiteralPlace → Text → Text
  | _, [] => []
  | .outside, c :: rest =>
    if c = CodePoint.ofChar '"' then outsideFrom .inside rest else c :: outsideFrom .outside rest
  | .inside, c :: rest =>
    if c = CodePoint.ofChar '"' then outsideFrom .outside rest
    else if c = CodePoint.ofChar '\\' then outsideFrom .escaped rest
    else outsideFrom .inside rest
  | .escaped, _ :: rest => outsideFrom .inside rest

/-- The part of JSON text that stands outside of its string literals. -/
def outsideLiterals (t : Text) : Text := outsideFrom .outside t

/-- The text has no controls, and outside of its literals, all of which end in it, no blanks. -/
structure IsCompact (t : Text) : Prop where
  visible : ∀ c ∈ t, 0x20 ≤ c.val
  outside : ∀ rest, (∀ c ∈ outsideLiterals rest, c.isBlank = false) →
    ∀ c ∈ outsideLiterals (t ++ rest), c.isBlank = false

theorem IsCompact.append {s t : Text} (hs : IsCompact s) (ht : IsCompact t) : IsCompact (s ++ t) := by
  constructor
  · exact fun c hc => (List.mem_append.1 hc).elim (hs.visible c) (ht.visible c)
  · intro rest hrest
    rw [List.append_assoc]
    exact hs.outside _ (ht.outside rest hrest)

theorem IsCompact.not_isBlank {t : Text} (h : IsCompact t) :
    ∀ c ∈ outsideLiterals t, c.isBlank = false := by
  have hall := h.outside [] fun _ hc => nomatch hc
  rwa [List.append_nil] at hall

theorem isCompact_nil : IsCompact [] := ⟨fun _ hc => (nomatch hc), fun _ hrest => hrest⟩

/-- A code point that is neither a quote nor a blank nor a control. -/
def IsMark (c : CodePoint) : Prop :=
  c ≠ CodePoint.ofChar '"' ∧ c.isBlank = false ∧ 0x20 ≤ c.val

instance : DecidablePred IsMark := fun c =>
  inferInstanceAs (Decidable (c ≠ CodePoint.ofChar '"' ∧ c.isBlank = false ∧ 0x20 ≤ c.val))

theorem isCompact_of_marks {t : Text} (h : ∀ c ∈ t, IsMark c) : IsCompact t := by
  induction t with
  | nil => exact isCompact_nil
  | cons c t ih =>
    obtain ⟨hquote, hblank, hvisible⟩ := h c List.mem_cons_self
    have ht := ih fun d hd => h d (List.mem_cons_of_mem c hd)
    constructor
    · exact List.forall_mem_cons.2 ⟨hvisible, ht.visible⟩
    · intro rest hrest
      have houtside : outsideLiterals (c :: (t ++ rest)) = c :: outsideLiterals (t ++ rest) :=
        if_neg hquote
      rw [List.cons_append, houtside]
      exact List.forall_mem_cons.2 ⟨hblank, ht.outside rest hrest⟩

private theorem isMark_of_isWordPoint {c : CodePoint} (h : Reader.isWordPoint c = true) :
    IsMark c := by
  obtain ⟨hlow, hhigh⟩ := bounds_of_isWordPoint h
  refine ⟨?_, ?_, by omega⟩
  · rintro rfl
    exact absurd hlow (by decide)
  · rw [Bool.eq_false_iff]
    simp only [CodePoint.isBlank, CodePoint.isWhiteSpace, Ne, Bool.or_eq_true, Bool.and_eq_true,
      decide_eq_true_eq, beq_iff_eq]
    omega

/-! String literals -/

/-- What a text in a literal is written as keeps the reader in the literal. -/
structure IsInLiteral (t : Text) : Prop where
  visible : ∀ c ∈ t, 0x20 ≤ c.val
  inside : ∀ rest, outsideFrom .inside (t ++ rest) = outsideFrom .inside rest

theorem IsInLiteral.append {s t : Text} (hs : IsInLiteral s) (ht : IsInLiteral t) :
    IsInLiteral (s ++ t) := by
  constructor
  · exact fun c hc => (List.mem_append.1 hc).elim (hs.visible c) (ht.visible c)
  · intro rest
    rw [List.append_assoc, hs.inside, ht.inside]

private theorem isInLiteral_nil : IsInLiteral [] := ⟨fun _ hc => (nomatch hc), fun _ => rfl⟩

theorem isInLiteral_point {c : CodePoint} (hquote : c ≠ CodePoint.ofChar '"')
    (hbackslash : c ≠ CodePoint.ofChar '\\') (hvisible : 0x20 ≤ c.val) : IsInLiteral [c] := by
  constructor
  · exact fun d hd => List.mem_singleton.1 hd ▸ hvisible
  · intro rest
    exact (if_neg hquote).trans (if_neg hbackslash)

theorem isInLiteral_escape {c : CodePoint} (hvisible : 0x20 ≤ c.val) :
    IsInLiteral [CodePoint.ofChar '\\', c] := by
  constructor
  · intro d hd
    rcases List.mem_cons.1 hd with rfl | hd
    · decide
    · exact List.mem_singleton.1 hd ▸ hvisible
  · exact fun _ => rfl

private theorem isInLiteral_points (asciiOnly : Bool) (t : Text) :
    IsInLiteral (t.flatMap (pointText asciiOnly)) := by
  have hescape : ∀ e ∈ Reader.shortEscapes, 0x20 ≤ e.2.val := by decide
  refine InLiterals.points (q := fun _ => True)
    ⟨isInLiteral_nil, .append, fun e he => isInLiteral_escape (hescape e he),
      isInLiteral_escape (by decide), fun n => ?_, ?_⟩ fun _ _ => trivial
  · obtain ⟨hlow, hhigh, hbackslash⟩ := bounds_of_hexDigit n
    refine isInLiteral_point (fun h => ?_) (fun h => ?_) (by omega)
    · rw [h] at hlow
      exact absurd hlow (by decide)
    · rw [h] at hbackslash
      exact hbackslash rfl
  · intro c _ hquote hbackslash hvisible _
    exact isInLiteral_point hquote hbackslash hvisible

private theorem isCompact_stringText (asciiOnly : Bool) (t : Text) :
    IsCompact (stringText asciiOnly t) := by
  have hpoints := isInLiteral_points asciiOnly t
  have hquote : 0x20 ≤ (CodePoint.ofChar '"').val := by decide
  constructor
  · refine List.forall_mem_cons.2 ⟨hquote, fun c hc => ?_⟩
    rcases List.mem_append.1 hc with hc | hc
    · exact hpoints.visible c hc
    · exact List.mem_singleton.1 hc ▸ hquote
  · intro rest hrest
    have houtside : outsideLiterals (stringText asciiOnly t ++ rest) = outsideLiterals rest := by
      show outsideFrom .inside
        ((t.flatMap (pointText asciiOnly) ++ [CodePoint.ofChar '"']) ++ rest) = _
      rw [List.append_assoc, hpoints.inside]
      rfl
    rw [houtside]
    exact hrest

theorem isCompact_write (v : Json) : IsCompact (write Style.compact v) := by
  have hbracket : ∀ c ∈ Text.ofString "[]\x7b\x7d", IsMark c := by decide
  refine InTexts.write (q := fun _ => True)
    ⟨isCompact_nil, .append, fun t ht => ?_, fun t _ => isCompact_stringText _ t, ?_,
      isCompact_of_marks (by decide), isCompact_of_marks (by decide)⟩
    (hasStrings_of_forall (fun _ => trivial) v)
  · exact isCompact_of_marks fun c hc => isMark_of_isWordPoint (ht c hc)
  · exact fun c hc => isCompact_of_marks fun d hd => List.mem_singleton.1 hd ▸ hbracket c hc

end NodePanel.Json
