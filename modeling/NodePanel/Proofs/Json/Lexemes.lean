import NodePanel.Proofs.Encoding.Utf8
import NodePanel.Proofs.Json.Literal
import NodePanel.Proofs.Json.Word
import NodePanel.Proofs.Json.Written
import NodePanel.Proofs.Text.Basic

/-!
What holds of the text of a value. The text is made of words, string literals, brackets and
separators, and a literal of the escapes and the code points in it, so a property of texts that all
of these have and that appending keeps holds of the whole. Of the strings in the value something may
be known, and so of the literals.
-/
namespace NodePanel.Json

/-- The property is one of everything that the inside of a literal is made of, if its code points are
as required. -/
structure InLiterals (asciiOnly : Bool) (q : CodePoint → Prop) (p : Text → Prop) : Prop where
  nil : p []
  append : ∀ {s t : Text}, p s → p t → p (s ++ t)
  escape : ∀ e ∈ Reader.shortEscapes, p [CodePoint.ofChar '\\', e.2]
  unit : p "\\u"
  digit : ∀ n, p [hexDigit n]
  point : ∀ c, q c → c ≠ CodePoint.ofChar '"' → c ≠ CodePoint.ofChar '\\' → 0x20 ≤ c.val →
    (asciiOnly = true → c.val < 0x7F) → p [c]

namespace InLiterals

variable {asciiOnly : Bool} {q : CodePoint → Prop} {p : Text → Prop}

theorem hexText (h : InLiterals asciiOnly q p) (width n : Nat) : p (hexText width n) := by
  induction width generalizing n with
  | zero => exact h.nil
  | succ width ih => exact h.append (ih _) (h.digit n)

theorem unitEscape (h : InLiterals asciiOnly q p) (n : Nat) : p (unitEscape n) :=
  h.append h.unit (h.hexText 4 n)

theorem pointText (h : InLiterals asciiOnly q p) {c : CodePoint} (hc : q c) :
    p (pointText asciiOnly c) := by
  unfold Json.pointText
  split
  next escape hescape =>
    obtain ⟨letter, hmem, rfl⟩ := Reader.exists_shortEscapes hescape
    exact h.escape _ hmem
  next hescape =>
    split
    · unfold pointEscape
      split
      · exact h.unitEscape _
      · exact h.append (h.unitEscape _) (h.unitEscape _)
    next hplain =>
      simp only [Bool.or_eq_true, Bool.and_eq_true, decide_eq_true_eq, not_or, not_and, Nat.not_lt,
        Nat.not_le] at hplain
      refine h.point c hc ?_ ?_ hplain.1 hplain.2
      · rintro rfl
        contradiction
      · rintro rfl
        contradiction

theorem points (h : InLiterals asciiOnly q p) {t : Text} (ht : ∀ c ∈ t, q c) :
    p (t.flatMap (Json.pointText asciiOnly)) := by
  induction t with
  | nil => exact h.nil
  | cons c t ih =>
    rw [List.forall_mem_cons] at ht
    exact h.append (h.pointText ht.1) (ih ht.2)

end InLiterals

inductive HasStrings (q : Text → Prop) : Json → Prop where
  | null : HasStrings q .null
  | bool (b : Bool) : HasStrings q (.bool b)
  | int (n : Int) : HasStrings q (.int n)
  | float (x : Binary64) : HasStrings q (.float x)
  | str {t : Text} (h : q t) : HasStrings q (.str t)
  | arr {items : List Json} (h : ∀ v ∈ items, HasStrings q v) : HasStrings q (.arr items)
  | obj {fields : Fields} (hkeys : ∀ f ∈ fields, q f.1) (h : ∀ f ∈ fields, HasStrings q f.2) :
    HasStrings q (.obj fields)

theorem hasStrings_of_forall {q : Text → Prop} (h : ∀ t, q t) (v : Json) : HasStrings q v := by
  induction v using ind with
  | null => exact .null
  | bool b => exact .bool b
  | int n => exact .int n
  | float x => exact .float x
  | str t => exact .str (h t)
  | arr items ih => exact .arr ih
  | obj fields ih => exact .obj (fun f _ => h f.1) ih

/-- The property is one of everything that the text of a value is made of, if its strings are as
required. -/
structure InTexts (style : Style) (q : Text → Prop) (p : Text → Prop) : Prop where
  nil : p []
  append : ∀ {s t : Text}, p s → p t → p (s ++ t)
  word : ∀ t, (∀ c ∈ t, Reader.isWordPoint c = true) → p t
  literal : ∀ t, q t → p (stringText style.asciiOnly t)
  bracket : ∀ c ∈ Text.ofString "[]\x7b\x7d", p [c]
  itemSeparator : p style.itemSeparator
  keySeparator : p style.keySeparator

namespace InTexts

variable {style : Style} {q p : Text → Prop}

theorem between {α : Type} (h : InTexts style q p) {piece : α → Text} {items : List α}
    (hpieces : ∀ item ∈ items, p (piece item)) : p (between style piece items) := by
  have hlater (items : List α) (hpieces : ∀ item ∈ items, p (piece item)) :
      p (later style piece items) := by
    induction items with
    | nil => exact h.nil
    | cons item items ih =>
      have hitems := ih fun a ha => hpieces a (List.mem_cons_of_mem item ha)
      exact h.append (h.append h.itemSeparator (hpieces item List.mem_cons_self)) hitems
  cases items with
  | nil => exact h.nil
  | cons item items =>
    exact h.append (hpieces item List.mem_cons_self)
      (hlater items fun a ha => hpieces a (List.mem_cons_of_mem item ha))

theorem write (h : InTexts style q p) {v : Json} (hv : v.HasStrings q) : p (write style v) := by
  induction hv with
  | null => exact h.word _ isWord_null.points
  | bool b =>
    rw [write_bool]
    exact h.word _ (isWord_bool b).points
  | int n =>
    rw [write_int, ← toText_intNumeral]
    exact h.word _ (isWordPoint_toText (isWritten_intNumeral n))
  | float x =>
    rw [write_float]
    exact h.word _ (isWord_float x).points
  | str ht =>
    rw [write_str]
    exact h.literal _ ht
  | arr hitems ih =>
    have hopen : p [CodePoint.ofChar '['] := h.bracket _ (by decide)
    have hclose : p [CodePoint.ofChar ']'] := h.bracket _ (by decide)
    rw [write_arr]
    exact h.append hopen (h.append (h.between ih) hclose)
  | @obj fields hkeys _ ih =>
    have hopen : p [CodePoint.ofChar '\x7b'] := h.bracket _ (by decide)
    have hclose : p [CodePoint.ofChar '\x7d'] := h.bracket _ (by decide)
    have hfields : p (Json.between style (fieldText style) fields) := h.between fun f hf =>
      h.append (h.append (h.literal f.1 (hkeys f hf)) h.keySeparator) (ih f hf)
    rw [write_obj]
    exact h.append hopen (h.append hfields hclose)

end InTexts

/-! Code points that stand in words and escapes -/

theorem bounds_of_isWordPoint {c : CodePoint} (h : Reader.isWordPoint c = true) :
    0x2B ≤ c.val ∧ c.val < 0x80 := by
  simp only [Reader.isWordPoint, CodePoint.isAsciiLetter, CodePoint.isAsciiUpper,
    CodePoint.isAsciiLower, CodePoint.isAsciiDigit, Bool.or_eq_true, Bool.and_eq_true,
    decide_eq_true_eq] at h
  rcases h with (((h | h) | rfl) | rfl) | rfl
  · omega
  · omega
  all_goals decide

theorem bounds_of_hexDigit (n : Nat) :
    0x30 ≤ (hexDigit n).val ∧ (hexDigit n).val < 0x80 ∧ (hexDigit n).val ≠ 0x5C := by
  have hlt := Nat.mod_lt n (show 0 < 16 by decide)
  unfold hexDigit
  split
  · rw [CodePoint.val_ofNat (by omega)]
    omega
  · rw [CodePoint.val_ofNat (by omega)]
    omega

/-! The style for ASCII -/

theorem isPlainAscii_singleton {c : CodePoint} (hlow : 0x20 ≤ c.val) (hhigh : c.val < 0x80) :
    Text.IsPlainAscii [c] := by
  intro d hd
  rw [List.mem_singleton.1 hd]
  omega

theorem inLiterals_isPlainAscii :
    InLiterals true (fun _ => True) Text.IsPlainAscii := by
  refine ⟨nofun, .append, by decide, by decide, fun n => ?_, ?_⟩
  · obtain ⟨hlow, hhigh, -⟩ := bounds_of_hexDigit n
    exact isPlainAscii_singleton (by omega) hhigh
  · intro c _ _ _ hvisible hascii
    have := hascii rfl
    exact isPlainAscii_singleton hvisible (by omega)

private theorem isPlainAscii_points (t : Text) : Text.IsPlainAscii (t.flatMap (pointText true)) :=
  inLiterals_isPlainAscii.points fun _ _ => trivial

theorem isPlainAscii_word {t : Text} (h : ∀ c ∈ t, Reader.isWordPoint c = true) :
    Text.IsPlainAscii t := by
  intro c hc
  obtain ⟨hlow, hhigh⟩ := bounds_of_isWordPoint (h c hc)
  exact ⟨by omega, hhigh⟩

theorem isPlainAscii_write (v : Json) : Text.IsPlainAscii (write Style.ascii v) := by
  have hquote : Text.IsPlainAscii [CodePoint.ofChar '"'] := by decide
  have hin : InTexts Style.ascii (fun _ => True) Text.IsPlainAscii :=
    ⟨nofun, .append, fun _ => isPlainAscii_word,
      fun t _ => hquote.append ((isPlainAscii_points t).append hquote), by decide, by decide,
      by decide⟩
  exact hin.write (hasStrings_of_forall (fun _ => trivial) v)

/-! Texts without surrogates -/

theorem isScalar_of_isPlainAscii {t : Text} (h : t.IsPlainAscii) : Utf8.IsScalar t := by
  intro c hc
  have hc' := (h c hc).2
  simp only [CodePoint.isSurrogate, Bool.and_eq_false_iff, decide_eq_false_iff_not]
  omega

theorem isScalar_append {s t : Text} (hs : Utf8.IsScalar s) (ht : Utf8.IsScalar t) :
    Utf8.IsScalar (s ++ t) := fun c hc => (List.mem_append.1 hc).elim (hs c) (ht c)

private theorem isScalar_points {asciiOnly : Bool} {t : Text} (h : Utf8.IsScalar t) :
    Utf8.IsScalar (t.flatMap (pointText asciiOnly)) := by
  have hescape := inLiterals_isPlainAscii
  have hin : InLiterals asciiOnly (fun c => c.isSurrogate = false) Utf8.IsScalar :=
    ⟨nofun, isScalar_append, fun e he => isScalar_of_isPlainAscii (hescape.escape e he),
      isScalar_of_isPlainAscii hescape.unit, fun n => isScalar_of_isPlainAscii (hescape.digit n),
      fun c hc _ _ _ _ => Utf8.isScalar_cons_iff.2 ⟨hc, nofun⟩⟩
  exact hin.points h

theorem isScalar_write {v : Json} (h : v.HasStrings Utf8.IsScalar) :
    Utf8.IsScalar (write Style.compact v) := by
  have hquote : Utf8.IsScalar [CodePoint.ofChar '"'] := by decide
  have hin : InTexts Style.compact Utf8.IsScalar Utf8.IsScalar :=
    ⟨nofun, isScalar_append, fun t ht => isScalar_of_isPlainAscii (isPlainAscii_word ht),
      fun t ht => isScalar_append hquote (isScalar_append (isScalar_points ht) hquote), by decide,
      by decide, by decide⟩
  exact hin.write h

end NodePanel.Json
