import NodePanel.Text.Basic

/-!
Punycode: a text written in ASCII. Its ASCII code points come first, with a hyphen after them; then
each of the others, in ascending order, by how many other insertions would have come before its own.
These counts are numbers whose digits have thresholds: a digit below its threshold is the last one.
The thresholds follow the size of the counts before.
-/
namespace NodePanel.Punycode

/-- The digits of the numbers are a to z and 0 to 9. -/
def digitCount : Nat := 36

def digit (n : Nat) : CodePoint :=
  CodePoint.ofNat (if n < 26 then 0x61 + n else 0x30 + (n - 26))

def digitValue? (c : CodePoint) : Option Nat :=
  if c.isAsciiLetter then some (c.asciiLower.val - 0x61)
  else if c.isAsciiDigit then some (c.val - 0x30 + 26)
  else none

def threshold (bias place : Nat) : Nat := min 26 (max 1 (digitCount * (place + 1) - bias))

theorem threshold_pos (bias place : Nat) : 0 < threshold bias place := by
  unfold threshold
  omega

def writeNumber (bias place n : Nat) : Text :=
  let least := threshold bias place
  if n < least then [digit n]
  else
    digit (least + (n - least) % (digitCount - least))
      :: writeNumber bias (place + 1) ((n - least) / (digitCount - least))
termination_by n
decreasing_by
  have := threshold_pos bias place
  exact Nat.lt_of_le_of_lt (Nat.div_le_self ..) (by omega)

/-- The number at the front of a text, from its digit at `place` on, and what follows it. -/
def readNumber? (bias place weight : Nat) : Text → Option (Nat × Text)
  | [] => none
  | c :: rest => do
    let value ← digitValue? c
    let least := threshold bias place
    if value < least then some (value * weight, rest)
    else
      let (more, rest) ← readNumber? bias (place + 1) (weight * (digitCount - least)) rest
      some (value * weight + more, rest)

theorem length_lt_of_readNumber? {bias place weight n : Nat} {t rest : Text}
    (h : readNumber? bias place weight t = some (n, rest)) : rest.length < t.length := by
  induction t generalizing place weight n with
  | nil => simp [readNumber?] at h
  | cons c t ih =>
    simp only [readNumber?, bind, Option.bind_eq_some_iff] at h
    obtain ⟨value, _, h⟩ := h
    split at h
    · cases h
      simp
    · simp only [Option.bind_eq_some_iff] at h
      obtain ⟨⟨more, rest'⟩, hmore, h⟩ := h
      cases h
      have : rest'.length < t.length := ih hmore
      simp only [List.length_cons]
      omega

/-- A count divided by 35 until it is at most 455, and how often that was. -/
def reduced (count : Nat) : Nat × Nat :=
  if _h : 455 < count then
    let (rest, times) := reduced (count / 35)
    (rest, times + 1)
  else (count, 0)
termination_by count
decreasing_by exact Nat.div_lt_self (by omega) (by omega)

/-- The bias after a count, with so many code points in place. -/
def biasAfter (isFirst : Bool) (count points : Nat) : Nat :=
  let count := if isFirst then count / 700 else count / 2
  let (rest, times) := reduced (count + count / points)
  digitCount * times + digitCount * rest / (rest + 38)

def firstBias : Nat := 72

def firstPoint : Nat := 0x80

/-- A text that is being written: what is written, last first, the insertions passed over since the
last number, the bias, and how many code points are in place. -/
structure Writing where
  done : Text
  count : Nat
  bias : Nat
  points : Nat

namespace Writing

def skip (w : Writing) : Writing := { w with count := w.count + 1 }

def insert (isFirst : Bool) (w : Writing) : Writing :=
  { done := (writeNumber w.bias 0 w.count).reverse ++ w.done
    count := 0
    bias := biasAfter isFirst w.count (w.points + 1)
    points := w.points + 1 }

/-- Go once through a text and insert all its code points that are `point`. -/
def pass (basic : Nat) (t : Text) (point : Nat) (w : Writing) : Writing :=
  t.foldl
    (fun w c =>
      if c.val < point then w.skip
      else if c.val = point then w.insert (w.points == basic)
      else w)
    w

end Writing

/-- The numbers for the code points in `points`, which ascend, from `next` on. -/
def writePoints (basic : Nat) (t : Text) : List Nat → Nat → Writing → Text
  | [], _, w => w.done.reverse
  | point :: points, next, w =>
    let passed := { w with count := w.count + (point - next) * (w.points + 1) }
    writePoints basic t points (point + 1) (passed.pass basic t point).skip

def ascending (points : List Nat) : List Nat := (points.mergeSort (· ≤ ·)).eraseReps

def hyphen : CodePoint := '-'

def encode (t : Text) : Text :=
  let basic := t.filter CodePoint.isAscii
  let points := ascending ((t.filter (!·.isAscii)).map CodePoint.val)
  (if basic.isEmpty then [] else basic ++ [hyphen])
    ++ writePoints basic.length t points firstPoint ⟨[], 0, firstBias, basic.length⟩

/-- Insert what numbers say, from the code point `point` at `place` on. -/
def insertAll? (isFirst : Bool) (bias point place : Nat) (done : Text) (t : Text) : Option Text :=
  match t with
  | [] => some done
  | c :: rest =>
    match _h : readNumber? bias 0 1 (c :: rest) with
    | none => none
    | some (count, rest) =>
      let points := done.length + 1
      let point := point + (place + count) / points
      let place := (place + count) % points
      if h : point < 0x110000 then
        insertAll? false (biasAfter isFirst count points) point (place + 1)
          (done.insertIdx place ⟨point, h⟩) rest
      else none
termination_by t.length
decreasing_by exact length_lt_of_readNumber? _h

def cutBasic (t : Text) : Text × Text :=
  match Text.cut? hyphen t.reverse with
  | some (numbers, basic) => (basic.reverse, numbers.reverse)
  | none => ([], t)

/-- The text that is written in ASCII, if the numbers are whole and lead to code points. -/
def decode? (t : Text) : Option Text :=
  let (basic, numbers) := cutBasic t
  insertAll? true firstBias firstPoint 0 basic numbers

end NodePanel.Punycode
