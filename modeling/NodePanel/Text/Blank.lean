import NodePanel.Text.Basic

/-!
Three classes of code points that separate words or lines. Blanks are the white space of Unicode
together with the four information separators U+001C to U+001F.
-/
namespace NodePanel

/-- The property White_Space of Unicode. -/
def CodePoint.isWhiteSpace (c : CodePoint) : Bool :=
  (0x09 ≤ c.val && c.val ≤ 0x0D) || c.val == 0x20 || c.val == 0x85 || c.val == 0xA0
    || c.val == 0x1680 || (0x2000 ≤ c.val && c.val ≤ 0x200A) || c.val == 0x2028
    || c.val == 0x2029 || c.val == 0x202F || c.val == 0x205F || c.val == 0x3000

def CodePoint.isBlank (c : CodePoint) : Bool :=
  c.isWhiteSpace || (0x1C ≤ c.val && c.val ≤ 0x1F)

/-- What ends a line of text: the four line controls, three of the information separators, next
line, and the two separators of Unicode. -/
def CodePoint.isLineBreak (c : CodePoint) : Bool :=
  (0x0A ≤ c.val && c.val ≤ 0x0D) || (0x1C ≤ c.val && c.val ≤ 0x1E) || c.val == 0x85
    || c.val == 0x2028 || c.val == 0x2029

theorem CodePoint.isBlank_of_isLineBreak {c : CodePoint} (h : c.isLineBreak = true) :
    c.isBlank = true := by
  simp only [isLineBreak, isBlank, isWhiteSpace, Bool.or_eq_true, Bool.and_eq_true,
    decide_eq_true_eq, beq_iff_eq] at h ⊢
  omega

namespace Text

def strip (t : Text) : Text := trim CodePoint.isBlank t

def isBlank (t : Text) : Bool := t.all CodePoint.isBlank

end Text

end NodePanel
