import NodePanel.Encoding.Fault

/-!
UTF-8. One machine reads the octets one at a time and cuts them into code points and malformed
runs, a run being as long as some code point could still begin with it. The three decoders differ
in what they make of the runs: `decode` refuses the first one, `decodeLossy` puts a replacement for
each, and `decodeWide` also knows the three-octet forms of surrogates.
-/
namespace NodePanel.Utf8

inductive Malformation where
  | start
  | continuation
  | truncation
deriving DecidableEq

def Malformation.reason : Malformation → Text
  | start => "invalid start byte"
  | continuation => "invalid continuation byte"
  | truncation => "unexpected end of data"

inductive Item where
  | point (c : CodePoint)
  | malformed (octets : Octets) (malformation : Malformation)
deriving DecidableEq

/-- A code point of which some octets are read: its value so far, how many octets it still needs,
the bounds of the next one, and the octets read, the last one first. -/
structure Pending where
  value : Nat
  owed : Nat
  low : Nat
  high : Nat
  taken : Octets
deriving DecidableEq

inductive Lead where
  | whole (c : CodePoint)
  | opens (pending : Pending)
  | invalid

/-- What an octet means at the start of a code point. The bounds of the second octet keep out
overlong forms, values above U+10FFFF and, unless `surrogates` is set, the surrogates. -/
def lead (surrogates : Bool) (b : UInt8) : Lead :=
  let n := b.toNat
  let opens (value owed low high : Nat) : Lead := .opens { value, owed, low, high, taken := [b] }
  if n < 0x80 then .whole (CodePoint.ofNat n)
  else if n < 0xC2 then .invalid
  else if n < 0xE0 then opens (n - 0xC0) 1 0x80 0xBF
  else if n = 0xE0 then opens 0 2 0xA0 0xBF
  else if n = 0xED then opens 0xD 2 0x80 (if surrogates then 0xBF else 0x9F)
  else if n < 0xF0 then opens (n - 0xE0) 2 0x80 0xBF
  else if n = 0xF0 then opens 0 3 0x90 0xBF
  else if n < 0xF4 then opens (n - 0xF0) 3 0x80 0xBF
  else if n = 0xF4 then opens 4 3 0x80 0x8F
  else .invalid

/-- The state after an octet at the start of a code point, and the items read, the last one
first. -/
def begin (surrogates : Bool) (b : UInt8) (done : List Item) : Option Pending × List Item :=
  match lead surrogates b with
  | .whole c => (none, .point c :: done)
  | .opens pending => (some pending, done)
  | .invalid => (none, .malformed [b] .start :: done)

def step (surrogates : Bool) (b : UInt8) (state : Option Pending × List Item) :
    Option Pending × List Item :=
  match state with
  | (none, done) => begin surrogates b done
  | (some p, done) =>
    if p.low ≤ b.toNat && b.toNat ≤ p.high then
      let value := p.value * 64 + (b.toNat - 0x80)
      if p.owed ≤ 1 then (none, .point (CodePoint.ofNat value) :: done)
      else
        (some { value, owed := p.owed - 1, low := 0x80, high := 0xBF, taken := b :: p.taken }, done)
    else begin surrogates b (.malformed p.taken.reverse .continuation :: done)

def finish : Option Pending × List Item → List Item
  | (none, done) => done.reverse
  | (some p, done) => (.malformed p.taken.reverse .truncation :: done).reverse

def items (surrogates : Bool) (octets : Octets) : List Item :=
  finish (octets.foldl (fun state b => step surrogates b state) (none, []))

/-- The octets of a code point; a surrogate has three, like every code point around it. -/
def encodePoint (c : CodePoint) : Octets :=
  let n := c.val
  let tail (unit : Nat) : UInt8 := UInt8.ofNat (0x80 + n / unit % 0x40)
  if n < 0x80 then [UInt8.ofNat n]
  else if n < 0x800 then [UInt8.ofNat (0xC0 + n / 0x40), tail 1]
  else if n < 0x10000 then [UInt8.ofNat (0xE0 + n / 0x1000), tail 0x40, tail 1]
  else [UInt8.ofNat (0xF0 + n / 0x40000), tail 0x1000, tail 0x40, tail 1]

def encodeWide (t : Text) : Octets := t.flatMap encodePoint

def encodeFault? (t : Text) : Option EncodeFault :=
  EncodeFault.find? "utf-8" "surrogates not allowed" CodePoint.isSurrogate CodePoint.isSurrogate t

/-- Surrogates have no octets. -/
def encode (t : Text) : Except EncodeFault Octets :=
  match encodeFault? t with
  | some fault => .error fault
  | none => .ok (encodeWide t)

def points : List Item → Nat → Text → Except DecodeFault Text
  | [], _, done => .ok done.reverse
  | .point c :: rest, offset, done => points rest (offset + (encodePoint c).length) (c :: done)
  | .malformed octets malformation :: _, offset, _ => .error
    { octet := octets.headD 0, start := offset, count := octets.length,
      reason := malformation.reason }

def decode (octets : Octets) : Except DecodeFault Text := points (items false octets) 0 []

def decodeWide? (octets : Octets) : Option Text := (points (items true octets) 0 []).toOption

def decodeLossy (octets : Octets) : Text :=
  (items false octets).map fun
    | .point c => c
    | .malformed _ _ => CodePoint.replacement

/-- Three replacements for each surrogate, as none of its octets stands for a code point. -/
def replaceSurrogates (t : Text) : Text := decodeLossy (encodeWide t)

end NodePanel.Utf8
