import NodePanel.Text.Quoted

/-!
What can be wrong with octets that should be text, and with text that should become octets, each
with its place and its wording.
-/
namespace NodePanel

/-- Octets that are no text: the first of them, where they start and how many belong together. -/
structure DecodeFault where
  octet : UInt8
  start : Nat
  count : Nat
  reason : Text
deriving DecidableEq

namespace DecodeFault

def place (f : DecodeFault) : Text :=
  if f.count = 1 then
    Text.ofString "byte 0x" ++ hexText 2 f.octet.toNat ++ Text.ofString " in position "
      ++ Text.ofNat f.start
  else
    Text.ofString "bytes in position " ++ Text.ofNat f.start ++ Text.ofString "-"
      ++ Text.ofNat (f.start + f.count - 1)

def message (f : DecodeFault) : Text :=
  Text.ofString "'utf-8' codec can't decode " ++ f.place ++ Text.ofString ": " ++ f.reason

end DecodeFault

structure EncodeFault where
  codec : Text
  point : CodePoint
  start : Nat
  count : Nat
  reason : Text
deriving DecidableEq

namespace EncodeFault

def place (f : EncodeFault) : Text :=
  if f.count = 1 then
    Text.ofString "character '" ++ f.point.escape ++ Text.ofString "' in position "
      ++ Text.ofNat f.start
  else
    Text.ofString "characters in position " ++ Text.ofNat f.start ++ Text.ofString "-"
      ++ Text.ofNat (f.start + f.count - 1)

def message (f : EncodeFault) : Text :=
  Text.ofString "'" ++ f.codec ++ Text.ofString "' codec can't encode " ++ f.place
    ++ Text.ofString ": " ++ f.reason

/-- The first code point that satisfies `bad`, with all that satisfy `more` right after it. -/
def find? (codec reason : Text) (bad more : CodePoint → Bool) (t : Text) : Option EncodeFault :=
  match t.span (!bad ·) with
  | (_, []) => none
  | (before, point :: rest) => some
    { codec, point, reason, start := before.length, count := 1 + (rest.takeWhile more).length }

end EncodeFault

end NodePanel
