import NodePanel.Number.Binary64
import NodePanel.Text.Blank
import NodePanel.Text.Digit

/-!
Numbers written as text. `Numeral` is what all the notations have in common: a sign, digits before
and after a point, and an exponent. A notation is then a condition on the parts, and the value does
not depend on it.
-/
namespace NodePanel

/-- The number of digits up to which an integer is read from a text and has a text. -/
def integerDigitLimit : Nat := 4300

/-- An integer of no more digits than its text may have. -/
def HasText (n : Int) : Prop := (Text.ofNat n.natAbs).length ≤ integerDigitLimit

instance : DecidablePred HasText := fun n =>
  inferInstanceAs (Decidable ((Text.ofNat n.natAbs).length ≤ integerDigitLimit))

def digitsMessage : Text := Text.ofString <|
  "Exceeds the limit (4300 digits) for integer string conversion; " ++
    "use sys.set_int_max_str_digits() to increase the limit"

structure Numeral where
  sign : Option CodePoint
  whole : Text
  /-- The digits after the point, if there is a point. -/
  fraction : Option Text
  /-- The sign and the digits after the letter `e`, if there is one. -/
  exponent : Option (Option CodePoint × Text)
deriving DecidableEq

namespace Numeral

def takeSign : Text → Option CodePoint × Text
  | [] => (none, [])
  | c :: rest => if c = '+' || c = '-' then (some c, rest) else (none, c :: rest)

def takePoint : Text → Option Text × Text
  | [] => (none, [])
  | c :: rest =>
    if c = '.' then
      let (digits, rest) := rest.span CodePoint.isAsciiDigit
      (some digits, rest)
    else (none, c :: rest)

def takeExponent : Text → Option (Option CodePoint × Text) × Text
  | [] => (none, [])
  | c :: rest =>
    if c = 'e' || c = 'E' then
      let (sign, rest) := takeSign rest
      let (digits, rest) := rest.span CodePoint.isAsciiDigit
      (some (sign, digits), rest)
    else (none, c :: rest)

/-- The parts of a text that has the form of a number in some notation. -/
def ofText? (t : Text) : Option Numeral :=
  let (sign, t) := takeSign t
  let (whole, t) := t.span CodePoint.isAsciiDigit
  let (fraction, t) := takePoint t
  let (exponent, t) := takeExponent t
  if t.isEmpty then some { sign, whole, fraction, exponent } else none

/-- The digits of a text as far as they are read. The last ones are a block of their own, so that a
digit more does not change the whole of a long number. -/
structure Digits where
  before : Nat
  block : Nat
  /-- Ten to the number of digits in the block. -/
  unit : Nat

namespace Digits

def blockUnit : Nat := Nat.pow 10 500

def value (d : Digits) : Nat := d.before * d.unit + d.block

def push (d : Digits) (digit : Nat) : Digits :=
  if d.unit < blockUnit then ⟨d.before, 10 * d.block + digit, 10 * d.unit⟩
  else ⟨d.value, digit, 10⟩

theorem value_push (d : Digits) (digit : Nat) : (d.push digit).value = 10 * d.value + digit := by
  unfold push
  split
  · simp only [value]
    rw [Nat.mul_left_comm, Nat.mul_add, Nat.add_assoc]
  · simp only [value]
    rw [Nat.mul_comm]

end Digits

def digitsValue (t : Text) : Nat :=
  (t.foldl (fun d c => Digits.push d (c.val - 0x30)) ⟨0, 0, 1⟩).value

theorem digitsValue_eq_foldl (t : Text) :
    digitsValue t = t.foldl (fun n c => 10 * n + (c.val - 0x30)) 0 := by
  have h (d : Digits) : (t.foldl (fun d c => Digits.push d (c.val - 0x30)) d).value
      = t.foldl (fun n c => 10 * n + (c.val - 0x30)) d.value := by
    induction t generalizing d with
    | nil => rfl
    | cons c t ih => rw [List.foldl_cons, List.foldl_cons, ih, Digits.value_push]
  exact h ⟨0, 0, 1⟩

def isMinus (sign : Option CodePoint) : Bool := sign == some (CodePoint.ofChar '-')

def isInteger (n : Numeral) : Bool := n.fraction.isNone && n.exponent.isNone

def toInt (n : Numeral) : Int := Binary64.withSign (isMinus n.sign) (digitsValue n.whole)

def exponentValue (n : Numeral) : Int :=
  match n.exponent with
  | none => 0
  | some (sign, digits) => Binary64.withSign (isMinus sign) (digitsValue digits)

def toBinary64 (n : Numeral) : Binary64 :=
  let fraction := n.fraction.getD []
  Binary64.ofDecimal (isMinus n.sign) (digitsValue (n.whole ++ fraction))
    (n.exponentValue - fraction.length)

/-- Digits on one side of the point are enough, and a sign may stand in front. -/
def isDecimal (n : Numeral) : Bool :=
  (!n.whole.isEmpty || n.fraction.any (!·.isEmpty)) && n.exponent.all (!·.2.isEmpty)

end Numeral

namespace Text

def trimWhiteSpace (t : Text) : Text := trim CodePoint.isWhiteSpace t

def asciiDigits (t : Text) : Text :=
  t.map fun c => match c.digitValue? with
    | some d => CodePoint.ofNat (0x30 + d)
    | none => c

/-- Drop the underscores of a text in which each stands between two digits. -/
def dropUnderscores? (t : Text) : Option Text := go t false
where
  go : Text → Bool → Option Text
    | [], _ => some []
    | c :: rest, afterDigit =>
      if c = '_' then
        match rest with
        | next :: _ => if afterDigit && next.isAsciiDigit then go rest false else none
        | [] => none
      else (go rest c.isAsciiDigit).map (c :: ·)

/-- The names of the numbers that are no decimals, in any case and after any sign. -/
def special? (t : Text) : Option Binary64 :=
  let (sign, name) := Numeral.takeSign t
  let name := asciiLower name
  if name = ofString "inf" || name = ofString "infinity" then
    some (.infinite (Numeral.isMinus sign))
  else if name = ofString "nan" then some .nan
  else none

/-- The number that a text of ASCII digits denotes, without blanks or underscores. -/
def plainBinary64? (t : Text) : Option Binary64 :=
  match special? t with
  | some x => some x
  | none =>
    match Numeral.ofText? t with
    | some n => if n.isDecimal then some n.toBinary64 else none
    | none => none

/-- Read an integer with digits of any script, a sign, white space around it, and single underscores
between digits. -/
def toInt? (t : Text) : Option Int := do
  let t ← dropUnderscores? (trimWhiteSpace (asciiDigits t))
  let n ← Numeral.ofText? t
  if n.isInteger && !n.whole.isEmpty && n.whole.length ≤ integerDigitLimit then some n.toInt
  else none

end Text

end NodePanel
