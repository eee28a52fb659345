import NodePanel.Text.Mark

/-!
The directions of writing, told apart for the code points of names only: letters, digits, marks and
the few signs that may stand between them.
-/
namespace NodePanel

inductive Direction where
  | leftToRight
  | rightToLeft
  | number
  | arabicNumber
  /-- A mark goes with what it belongs to. -/
  | mark
  | neutral
deriving DecidableEq

def Direction.isNumber : Direction → Bool
  | number | arabicNumber => true
  | _ => false

/-- What makes a text one that is written from right to left. -/
def Direction.turns : Direction → Bool
  | rightToLeft | arabicNumber => true
  | _ => false

namespace CodePoint

def isNumberDigit (c : CodePoint) : Bool :=
  c.isAsciiDigit || (0x6F0 ≤ c.val && c.val ≤ 0x6F9)

def isArabicDigit (c : CodePoint) : Bool :=
  (0x660 ≤ c.val && c.val ≤ 0x669) || (0x10D30 ≤ c.val && c.val ≤ 0x10D39)

/-- The blocks of the scripts that are written from right to left. -/
def rightToLeftBlocks : Array (Nat × Nat) :=
  #[(0x590, 0x8FF), (0xFB1D, 0xFDFF), (0xFE70, 0xFEFF), (0x10800, 0x10FFF), (0x1E800, 0x1EFFF)]

def neutralRuns : Array (Nat × Nat) := #[
  (0x2D, 0x2D), (0xB7, 0xB7), (0x2B9, 0x2BA), (0x2C6, 0x2CF), (0x2EC, 0x2EC), (0x375, 0x375),
  (0x200C, 0x200D), (0x2E2F, 0x2E2F), (0x30FB, 0x30FB), (0xA67F, 0xA67F), (0xA717, 0xA71F),
  (0xA788, 0xA788)]

def leftToRightMarks : List Nat := [0xCBF, 0xCC6, 0x11A07, 0x11A08, 0x11C3F]

def direction (c : CodePoint) : Direction :=
  if c.isNonspacingMark then (if leftToRightMarks.contains c.val then .leftToRight else .mark)
  else if c.isNumberDigit then .number
  else if c.isArabicDigit then .arabicNumber
  else if c.isInRuns rightToLeftBlocks then .rightToLeft
  else if c.isInRuns neutralRuns then .neutral
  else .leftToRight

end CodePoint

end NodePanel
