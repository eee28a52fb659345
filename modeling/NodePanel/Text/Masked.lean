import NodePanel.Text.Basic

/-!
How a secret is shown. Its length stays, and of one that is long enough its ends stay too, so that
its owner can recognise it.
-/
namespace NodePanel.Text

def shownAtEnd : Nat := 2

def mask : CodePoint := '*'

/-- Masks in the place of code points; a secret that is no longer than its ends is masked whole. -/
def masked (t : Text) : Text :=
  if t.length ≤ 2 * shownAtEnd then List.replicate t.length mask
  else
    t.take shownAtEnd ++ List.replicate (t.length - 2 * shownAtEnd) mask
      ++ t.drop (t.length - shownAtEnd)

@[simp] theorem length_masked (t : Text) : (masked t).length = t.length := by
  unfold masked
  split
  · simp
  · simp only [shownAtEnd] at *
    simp only [List.length_append, List.length_take, List.length_replicate, List.length_drop]
    omega

end NodePanel.Text
