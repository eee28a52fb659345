import NodePanel.Number.Numeral

/-!
The shortest decimal text of a floating-point number: the fewest significant digits that read back
as the number, and of the candidates with that many digits the one nearest to it. A number from
`10 ^ -4` to below `10 ^ 16` is written with a point, any other with an exponent.
-/
namespace NodePanel.Binary64

/-- The exponent `p` with `10 ^ (p - 1) ≤ x < 10 ^ p`, for `x` a positive number of units. -/
def decimalPoint (units : Nat) : Int :=
  if one ≤ units then (Nat.toDigits 10 (units / one)).length
  else 1 - (Nat.toDigits 10 (one / units)).length

/-- `units / (10 ^ e units-in-one)` as a ratio of natural numbers. -/
def onGrid (units : Nat) (e : Int) : Nat × Nat :=
  if 0 ≤ e then (units, one * Nat.pow 10 e.toNat) else (units * Nat.pow 10 (-e).toNat, one)

/-- The better of the two neighbours of a magnitude on the grid of multiples of `10 ^ e`, among
those that read back as the magnitude. -/
def onGridReadingBack? (magnitude : Nat) (e : Int) : Option Nat :=
  let (num, den) := onGrid (units magnitude) e
  let below := num / den
  let twice := 2 * (num % den)
  let back (d : Nat) : Bool := ofDecimal false d e == ofMagnitude false magnitude
  let lower := back below
  let upper := back (below + 1)
  if lower && upper then some (roundHalfEven num den)
  else if lower then some below
  else if upper && twice != 0 then some (below + 1)
  else none

/-- The fewest digits and their exponent, tried from one digit up to seventeen. -/
def shortestFrom (magnitude : Nat) (point : Int) : Nat → Nat → Nat × Int
  | 0, count =>
    let (num, den) := onGrid (units magnitude) (point - count)
    (roundHalfEven num den, point - count)
  | tries + 1, count =>
    match onGridReadingBack? magnitude (point - count) with
    | some digits => (digits, point - count)
    | none => shortestFrom magnitude point tries (count + 1)

def shortest (magnitude : Nat) : Nat × Int :=
  shortestFrom magnitude (decimalPoint (units magnitude)) 16 1

/-- Digits that stand for `0.d₁d₂… * 10 ^ point`, written with a point or with an exponent. -/
def layout (digits : Text) (point : Int) : Text :=
  let zeros (n : Nat) : Text := List.replicate n (CodePoint.ofChar '0')
  if -4 < point && point ≤ 16 then
    if point ≤ 0 then Text.ofString "0." ++ zeros (-point).toNat ++ digits
    else if digits.length ≤ point.toNat then
      digits ++ zeros (point.toNat - digits.length) ++ Text.ofString ".0"
    else digits.take point.toNat ++ Text.ofString "." ++ digits.drop point.toNat
  else
    let exponent := point - 1
    let mantissa :=
      if digits.length ≤ 1 then digits else digits.take 1 ++ Text.ofString "." ++ digits.drop 1
    let width := Text.ofNat exponent.natAbs
    mantissa ++ Text.ofString (if exponent < 0 then "e-" else "e+")
      ++ zeros (2 - width.length) ++ width

def magnitudeText (magnitude : Nat) : Text :=
  if magnitude = 0 then Text.ofString "0.0"
  else
    let (digits, exponent) := shortest magnitude
    let written := Text.ofNat digits
    layout (Text.dropEndWhile (· = CodePoint.ofChar '0') written) (written.length + exponent)

/-- The text of a number, with `infinity` and `notNumber` for the values that have no digits. -/
def textWith (infinity notNumber : Text) : Binary64 → Text
  | .finite negative magnitude =>
    if negative then CodePoint.ofChar '-' :: magnitudeText magnitude.val
    else magnitudeText magnitude.val
  | .infinite negative => if negative then CodePoint.ofChar '-' :: infinity else infinity
  | .nan => notNumber

def toText (x : Binary64) : Text := textWith "inf" "nan" x

end NodePanel.Binary64
