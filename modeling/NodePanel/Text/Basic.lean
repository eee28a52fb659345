/-!
Text as a sequence of code points. A JSON string may name a surrogate on its own, so the code
points here include the surrogates, which `Char` leaves out; `Text.toString?` says when a text has
none and is an ordinary string.
-/
namespace NodePanel

/-- A Unicode code point, surrogates included. -/
structure CodePoint where
  val : Nat
  isLt : val < 0x110000
deriving DecidableEq

/-- A text holds any code points in any order, so also surrogates that belong to no pair. -/
abbrev Text := List CodePoint

abbrev Octets := List UInt8

namespace CodePoint

def ofChar (c : Char) : CodePoint :=
  ⟨c.toNat, by
    have h := c.valid
    simp only [UInt32.isValidChar, Nat.isValidChar] at h
    show c.val.toNat < 0x110000
    omega⟩

instance : Coe Char CodePoint := ⟨ofChar⟩

def replacement : CodePoint := ⟨0xFFFD, by decide⟩

def ofNat (n : Nat) : CodePoint :=
  if h : n < 0x110000 then ⟨n, h⟩ else replacement

instance : Inhabited CodePoint := ⟨replacement⟩

def isHighSurrogate (c : CodePoint) : Bool := 0xD800 ≤ c.val && c.val < 0xDC00

def isLowSurrogate (c : CodePoint) : Bool := 0xDC00 ≤ c.val && c.val < 0xE000

def isSurrogate (c : CodePoint) : Bool := 0xD800 ≤ c.val && c.val < 0xE000

/-- The code point that a high and a low surrogate name together. -/
def ofPair (high low : CodePoint) : CodePoint :=
  ofNat (0x10000 + (high.val - 0xD800) * 0x400 + (low.val - 0xDC00))

def toChar? (c : CodePoint) : Option Char :=
  if h : c.val.isValidChar then some (Char.ofNatAux c.val h) else none

def isAsciiDigit (c : CodePoint) : Bool := 0x30 ≤ c.val && c.val ≤ 0x39

def isAsciiUpper (c : CodePoint) : Bool := 0x41 ≤ c.val && c.val ≤ 0x5A

def isAsciiLower (c : CodePoint) : Bool := 0x61 ≤ c.val && c.val ≤ 0x7A

def isAsciiLetter (c : CodePoint) : Bool := c.isAsciiUpper || c.isAsciiLower

def isHexDigit (c : CodePoint) : Bool :=
  c.isAsciiDigit || (0x41 ≤ c.val && c.val ≤ 0x46) || (0x61 ≤ c.val && c.val ≤ 0x66)

def isAscii (c : CodePoint) : Bool := c.val < 0x80

/-- Lower case for the letters A to Z; every other code point stays. -/
def asciiLower (c : CodePoint) : CodePoint :=
  if c.isAsciiUpper then ofNat (c.val + 32) else c

@[simp] theorem ofNat_val (c : CodePoint) : ofNat c.val = c := by
  simp [ofNat, c.isLt]

end CodePoint

namespace Text

def ofString (s : String) : Text := s.toList.map CodePoint.ofChar

instance : Coe String Text := ⟨ofString⟩

def toString? (t : Text) : Option String :=
  (t.mapM CodePoint.toChar?).map String.ofList

def ofNat (n : Nat) : Text := (Nat.toDigits 10 n).map CodePoint.ofChar

/-- The decimal text of an integer, with a minus sign in front of a negative one. -/
def ofInt (n : Int) : Text :=
  if n < 0 then CodePoint.ofChar '-' :: ofNat n.natAbs else ofNat n.natAbs

def asciiLower (t : Text) : Text := t.map CodePoint.asciiLower

def dropEndWhile (p : CodePoint → Bool) (t : Text) : Text :=
  (t.reverse.dropWhile p).reverse

def trim (p : CodePoint → Bool) (t : Text) : Text :=
  dropEndWhile p (t.dropWhile p)

def cut? (c : CodePoint) (t : Text) : Option (Text × Text) :=
  match t.dropWhile (· != c) with
  | [] => none
  | _ :: after => some (t.takeWhile (· != c), after)

theorem length_lt_of_cut? {c : CodePoint} {t before after : Text}
    (h : cut? c t = some (before, after)) : after.length < t.length := by
  unfold cut? at h
  split at h
  next => contradiction
  next found rest hdrop =>
    cases h
    have := (List.dropWhile_suffix (l := t) (· != c)).length_le
    rw [hdrop, List.length_cons] at this
    omega

/-- The pieces between the occurrences of `c`; there is one more of them than of `c`. -/
def splitOn (c : CodePoint) (t : Text) : List Text :=
  let (last, pieces) := t.foldr
    (fun x (piece, pieces) => if x = c then ([], piece :: pieces) else (x :: piece, pieces))
    ([], [])
  last :: pieces

def join (separator : Text) : List Text → Text
  | [] => []
  | piece :: pieces => piece ++ pieces.flatMap (separator ++ ·)

def startsWith (start t : Text) : Bool := start.isPrefixOf t

def le : Text → Text → Bool
  | [], _ => true
  | _ :: _, [] => false
  | a :: s, b :: t => a.val < b.val || (a.val == b.val && le s t)

end Text

end NodePanel
