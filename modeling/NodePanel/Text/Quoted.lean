import NodePanel.Text.Printable

/-!
The quoted form of a text for messages: between quotes, with escapes for everything that has no
visible form. The quote is the apostrophe, except for a text that holds apostrophes and no double
quote.
-/
namespace NodePanel

def hexDigit (n : Nat) : CodePoint :=
  CodePoint.ofNat (if n % 16 < 10 then 0x30 + n % 16 else 0x57 + n % 16)

def hexText : Nat → Nat → Text
  | 0, _ => []
  | width + 1, n => hexText width (n / 16) ++ [hexDigit n]

@[simp] theorem length_hexText (width n : Nat) : (hexText width n).length = width := by
  induction width generalizing n with
  | zero => rfl
  | succ width ih => simp [hexText, ih]

/-- A code point named by its number: two, four or eight hexadecimal digits, as few as suffice. -/
def CodePoint.escape (c : CodePoint) : Text :=
  if c.val < 0x100 then Text.ofString "\\x" ++ hexText 2 c.val
  else if c.val < 0x10000 then Text.ofString "\\u" ++ hexText 4 c.val
  else Text.ofString "\\U" ++ hexText 8 c.val

namespace Text

def quote (t : Text) : CodePoint :=
  if t.contains (CodePoint.ofChar '\'') && !t.contains (CodePoint.ofChar '"') then '"' else '\''

def quotedPoint (quote c : CodePoint) : Text :=
  if c = quote || c = '\\' then [CodePoint.ofChar '\\', c]
  else if c = '\t' then "\\t"
  else if c = '\n' then "\\n"
  else if c = '\r' then "\\r"
  else if c.isPrintable then [c]
  else c.escape

def quoted (t : Text) : Text :=
  quote t :: t.flatMap (quotedPoint (quote t)) ++ [quote t]

end Text

end NodePanel
