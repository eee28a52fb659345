import NodePanel.Text.Basic

/-!
Floating-point numbers of 64 bits as exact values. A finite number is a sign and a magnitude, and
the magnitudes are counted in ascending order, so magnitude `0` is zero and the one after the last
would be `2 ^ 1024`. Each magnitude is a whole number of units of `2 ^ -1074`. Every operation
computes its exact result as a ratio of natural numbers and rounds once, to the nearest number and
to the even one of two that are equally near.
-/
namespace NodePanel

/-- The number of magnitudes from one power of two to the next. -/
def Binary64.binade : Nat := Nat.pow 2 52

def Binary64.limit : Nat := 2047 * binade

inductive Binary64 where
  | finite (negative : Bool) (magnitude : Fin Binary64.limit)
  | infinite (negative : Bool)
  | nan
deriving DecidableEq

inductive IntegerError where
  | infinite
  | notNumber
deriving DecidableEq

def IntegerError.message : IntegerError → Text
  | infinite => "cannot convert float infinity to integer"
  | notNumber => "cannot convert float NaN to integer"

namespace Binary64

def significand (magnitude : Nat) : Nat :=
  if magnitude < binade then magnitude else magnitude % binade + binade

def scale (magnitude : Nat) : Nat := magnitude / binade - 1

/-- The value of a magnitude in units of `2 ^ -1074`. -/
def units (magnitude : Nat) : Nat := significand magnitude * Nat.pow 2 (scale magnitude)

def one : Nat := Nat.pow 2 1074

/-- The whole number nearest to `num / den`, the even one of two. -/
def roundHalfEven (num den : Nat) : Nat :=
  let quotient := num / den
  let twice := 2 * (num % den)
  if twice < den then quotient
  else if den < twice then quotient + 1
  else quotient + quotient % 2

/-- The magnitude nearest to `num / den` units. Within one scale the magnitudes are evenly spaced,
and a significand that rounds up to `2 ^ 53` counts on into the next scale. -/
def nearest (num den : Nat) : Nat :=
  let shift := (num / den).log2 - 52
  shift * binade + roundHalfEven num (den * Nat.pow 2 shift)

def ofMagnitude (negative : Bool) (magnitude : Nat) : Binary64 :=
  if h : magnitude < limit then .finite negative ⟨magnitude, h⟩ else .infinite negative

def ofUnits (negative : Bool) (num den : Nat) : Binary64 :=
  ofMagnitude negative (nearest num den)

def zero : Binary64 := ofMagnitude false 0

def ofInt (n : Int) : Binary64 := ofUnits (n < 0) (n.natAbs * one) 1

/-- The number nearest to `digits * 10 ^ exponent`. Exponents so large or so small that the result
is infinite or zero whatever the digits are not raised to a power. -/
def ofDecimal (negative : Bool) (digits : Nat) (exponent : Int) : Binary64 :=
  if digits = 0 then ofMagnitude negative 0
  else if 0 ≤ exponent then
    if 400 < exponent then .infinite negative
    else ofUnits negative (digits * Nat.pow 10 exponent.toNat * one) 1
  else
    let places := (-exponent).toNat
    if digits.log2 + 1100 < 3 * places then ofMagnitude negative 0
    else ofUnits negative (digits * one) (Nat.pow 10 places)

def isFinite : Binary64 → Bool
  | .finite _ _ => true
  | _ => false

def isPositive : Binary64 → Bool
  | .finite negative magnitude => !negative && magnitude.val != 0
  | .infinite negative => !negative
  | .nan => false

/-- Not less than zero, which minus zero is not and what is no number is. -/
def isNonneg : Binary64 → Bool
  | .finite negative magnitude => !negative || magnitude.val == 0
  | .infinite negative => !negative
  | .nan => false

def withSign (negative : Bool) (n : Nat) : Int := if negative then -(n : Int) else n

def toInt? : Binary64 → Option Int
  | .finite negative magnitude =>
    if units magnitude.val % one = 0 then some (withSign negative (units magnitude.val / one))
    else none
  | _ => none

def truncate : Binary64 → Except IntegerError Int
  | .finite negative magnitude => .ok (withSign negative (units magnitude.val / one))
  | .infinite _ => .error .infinite
  | .nan => .error .notNumber

def mulNat (x : Binary64) (k : Nat) : Binary64 :=
  match x with
  | .finite negative magnitude => ofUnits negative (units magnitude.val * k) 1
  | other => other

def divNat (x : Binary64) (k : Nat) : Binary64 :=
  match x with
  | .finite negative magnitude => ofUnits negative (units magnitude.val) k
  | other => other

instance : Inhabited Binary64 := ⟨zero⟩

end Binary64

end NodePanel
