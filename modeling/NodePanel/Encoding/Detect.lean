import NodePanel.Encoding.Utf8

/-!
Octets that hold text in one of the Unicode encodings, without a statement which one. The byte order
mark tells if there is one; otherwise the place of the zero octets does, because a text of a data
format starts with ASCII. All five encodings here have octets for surrogates.
-/
namespace NodePanel

inductive Encoding where
  | utf8
  | utf16 (bigEndian : Bool)
  | utf32 (bigEndian : Bool)
deriving DecidableEq

namespace Encoding

def pairValue (bigEndian : Bool) (a b : UInt8) : Nat :=
  if bigEndian then a.toNat * 256 + b.toNat else b.toNat * 256 + a.toNat

/-- The units of two octets each; an octet left over is no text. -/
def units16? (bigEndian : Bool) : Octets → List Nat → Option (List Nat)
  | [], done => some done.reverse
  | [_], _ => none
  | a :: b :: rest, done => units16? bigEndian rest (pairValue bigEndian a b :: done)

/-- The code points of units, where a high surrogate and the low one after it make one. -/
def joinUnits : List Nat → Text → Text
  | [], done => done.reverse
  | [u], done => (CodePoint.ofNat u :: done).reverse
  | u :: v :: rest, done =>
    let first := CodePoint.ofNat u
    let second := CodePoint.ofNat v
    if first.isHighSurrogate && second.isLowSurrogate then
      joinUnits rest (CodePoint.ofPair first second :: done)
    else joinUnits (v :: rest) (first :: done)

def points32? (bigEndian : Bool) : Octets → Text → Option Text
  | [], done => some done.reverse
  | a :: b :: c :: d :: rest, done =>
    let n :=
      if bigEndian then pairValue true a b * 65536 + pairValue true c d
      else pairValue false c d * 65536 + pairValue false a b
    if n < 0x110000 then points32? bigEndian rest (CodePoint.ofNat n :: done) else none
  | _, _ => none

def decode? : Encoding → Octets → Option Text
  | utf8, octets => Utf8.decodeWide? octets
  | utf16 bigEndian, octets => (units16? bigEndian octets []).map (joinUnits · [])
  | utf32 bigEndian, octets => points32? bigEndian octets []

def pairOctets (bigEndian : Bool) (n : Nat) : Octets :=
  if bigEndian then [UInt8.ofNat (n / 256), UInt8.ofNat n]
  else [UInt8.ofNat n, UInt8.ofNat (n / 256)]

def encodePoint : Encoding → CodePoint → Octets
  | utf8, c => Utf8.encodePoint c
  | utf16 bigEndian, c =>
    if c.val < 0x10000 then pairOctets bigEndian c.val
    else pairOctets bigEndian (0xD800 + (c.val - 0x10000) / 0x400)
      ++ pairOctets bigEndian (0xDC00 + (c.val - 0x10000) % 0x400)
  | utf32 bigEndian, c =>
    let high := pairOctets bigEndian (c.val / 65536)
    let low := pairOctets bigEndian (c.val % 65536)
    if bigEndian then high ++ low else low ++ high

def encode (e : Encoding) (t : Text) : Octets := t.flatMap e.encodePoint

def ofZeros : Octets → Encoding
  | a :: b :: c :: d :: _ =>
    if a = 0 then (if b = 0 then utf32 true else utf16 true)
    else if b = 0 then (if c = 0 && d = 0 then utf32 false else utf16 false)
    else utf8
  | [a, b] => if a = 0 then utf16 true else if b = 0 then utf16 false else utf8
  | _ => utf8

/-- The encoding of some octets and how many of them are its byte order mark. -/
def detect (octets : Octets) : Encoding × Nat :=
  if [0x00, 0x00, 0xFE, 0xFF].isPrefixOf octets then (utf32 true, 4)
  else if [0xFF, 0xFE, 0x00, 0x00].isPrefixOf octets then (utf32 false, 4)
  else if [0xFE, 0xFF].isPrefixOf octets then (utf16 true, 2)
  else if [0xFF, 0xFE].isPrefixOf octets then (utf16 false, 2)
  else if [0xEF, 0xBB, 0xBF].isPrefixOf octets then (utf8, 3)
  else (ofZeros octets, 0)

def read? (octets : Octets) : Option Text :=
  let (encoding, mark) := detect octets
  encoding.decode? (octets.drop mark)

end Encoding

end NodePanel
