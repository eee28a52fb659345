import Mathlib.Data.List.Chain
import NodePanel.Text.Basic

/-!
Surrogates. A code point above U+FFFF is named by a high and a low surrogate, which is why a text
that holds such a pair as two code points cannot be told from one that holds the code point itself
once both are written in units of sixteen bits.
-/
namespace NodePanel

namespace CodePoint

theorem val_ofNat {n : Nat} (h : n < 0x110000) : (ofNat n).val = n := by
  unfold ofNat
  rw [dif_pos h]

theorem ext_val {c d : CodePoint} (h : c.val = d.val) : c = d := by
  cases c
  cases d
  cases h
  rfl

variable {c : CodePoint}

theorem isHighSurrogate_ofNat {n : Nat} (h : n < 0x400) :
    (ofNat (0xD800 + n)).isHighSurrogate = true := by
  simp only [isHighSurrogate, val_ofNat (show 0xD800 + n < 0x110000 by omega), Bool.and_eq_true,
    decide_eq_true_eq]
  omega

theorem isLowSurrogate_ofNat {n : Nat} (h : n < 0x400) :
    (ofNat (0xDC00 + n)).isLowSurrogate = true := by
  simp only [isLowSurrogate, val_ofNat (show 0xDC00 + n < 0x110000 by omega), Bool.and_eq_true,
    decide_eq_true_eq]
  omega

theorem isHighSurrogate_first (c : CodePoint) :
    (ofNat (0xD800 + (c.val - 0x10000) / 0x400)).isHighSurrogate = true :=
  have hlt := c.isLt
  isHighSurrogate_ofNat (by omega)

theorem isLowSurrogate_second (c : CodePoint) :
    (ofNat (0xDC00 + (c.val - 0x10000) % 0x400)).isLowSurrogate = true :=
  isLowSurrogate_ofNat (by omega)

theorem isLowSurrogate_of_isHighSurrogate (h : c.isHighSurrogate = true) :
    c.isLowSurrogate = false := by
  simp only [isHighSurrogate, Bool.and_eq_true, decide_eq_true_eq] at h
  simp only [isLowSurrogate, Bool.and_eq_false_iff, decide_eq_false_iff_not]
  omega

theorem isHighSurrogate_of_small (h : c.val < 0x80) : c.isHighSurrogate = false := by
  simp only [isHighSurrogate, Bool.and_eq_false_iff, decide_eq_false_iff_not]
  omega

theorem isHighSurrogate_of_large (h : 0x10000 ≤ c.val) : c.isHighSurrogate = false := by
  simp only [isHighSurrogate, Bool.and_eq_false_iff, decide_eq_false_iff_not]
  omega

theorem ofPair_ofNat (h : 0x10000 ≤ c.val) :
    ofPair (ofNat (0xD800 + (c.val - 0x10000) / 0x400))
      (ofNat (0xDC00 + (c.val - 0x10000) % 0x400)) = c := by
  have hlt := c.isLt
  unfold ofPair
  rw [val_ofNat (by omega), val_ofNat (by omega)]
  refine ext_val ?_
  rw [val_ofNat (by omega)]
  omega

end CodePoint

/-- No high surrogate has a low one right after it. -/
def Text.IsUnpaired (t : Text) : Prop :=
  t.IsChain fun c d => c.isHighSurrogate = true → d.isLowSurrogate = false

instance : DecidablePred Text.IsUnpaired := fun t =>
  inferInstanceAs (Decidable (t.IsChain fun c d =>
    c.isHighSurrogate = true → d.isLowSurrogate = false))

namespace Text.IsUnpaired

variable {c : CodePoint} {t : Text}

theorem tail (h : IsUnpaired (c :: t)) : IsUnpaired t := (List.isChain_cons.1 h).2

theorem head? (h : IsUnpaired (c :: t)) (hc : c.isHighSurrogate = true) :
    ∀ d ∈ t.head?, d.isLowSurrogate = false :=
  fun d hd => (List.isChain_cons.1 h).1 d hd hc

theorem of_ascii (h : ∀ c ∈ t, c.isAscii = true) : IsUnpaired t := by
  induction t with
  | nil => exact List.isChain_nil
  | cons c t ih =>
    refine List.isChain_cons.2 ⟨fun d hd hc => ?_, ih fun d hd => h d (List.mem_cons_of_mem c hd)⟩
    have hascii := of_decide_eq_true (h c List.mem_cons_self)
    rw [CodePoint.isHighSurrogate_of_small hascii] at hc
    contradiction

end Text.IsUnpaired

end NodePanel
