import NodePanel.Json.Basic
import NodePanel.Encoding.Detect
import NodePanel.Machine

/-!
Reading JSON text one code point at a time. The state is the lexeme that has begun, what may come
next, and the containers that are open, so reading a text after another is running the machine on
from where the first one left it. Besides the numbers of the standard there are the words `NaN`,
`Infinity` and `-Infinity`. An escaped high surrogate and an escaped low one right after it name one
code point; all other surrogates stay as they are.
-/
namespace NodePanel.Json

/-- The part of a lexeme read so far, the last code point first. -/
inductive Lexeme where
  | idle
  | word (taken : Text)
  /-- Inside a string; `high` says that its last code point is an escaped high surrogate. -/
  | string (taken : Text) (high : Bool)
  | escape (taken : Text) (high : Bool)
  | unit (taken : Text) (high : Bool) (digits value : Nat)

inductive Place where
  | value
  | valueOrEnd
  | key
  | keyOrEnd
  | colon (key : Text)
  | separator

/-- An open container with what it holds so far, the last one first. -/
inductive Frame where
  | array (items : List Json)
  | object (fields : Fields)
  /-- An object whose next value belongs to `key`. -/
  | field (fields : Fields) (key : Text)

inductive Reader where
  | open (lexeme : Lexeme) (place : Place) (frames : List Frame)
  | closed (value : Json)
  | failed

namespace Reader

def start : Reader := .open .idle .value []

def isSpace (c : CodePoint) : Bool := c = ' ' || c = '\n' || c = '\r' || c = '\t'

def isWordPoint (c : CodePoint) : Bool :=
  c.isAsciiLetter || c.isAsciiDigit || c = '-' || c = '+' || c = '.'

/-- The form of a number: no plus sign, no needless zero in front, digits on both sides of a point
and in an exponent. -/
def isNumber (n : Numeral) : Bool :=
  n.sign != some (CodePoint.ofChar '+') && !n.whole.isEmpty
    && (n.whole.length == 1 || n.whole.head? != some (CodePoint.ofChar '0'))
    && n.fraction.all (!·.isEmpty) && n.exponent.all (!·.2.isEmpty)

def numberOf? (n : Numeral) : Option Json :=
  if !isNumber n then none
  else if n.isInteger then
    if n.whole.length ≤ integerDigitLimit then some (.int n.toInt) else none
  else some (.float n.toBinary64)

def wordValue? (t : Text) : Option Json :=
  if t = Text.ofString "null" then some .null
  else if t = Text.ofString "true" then some (.bool true)
  else if t = Text.ofString "false" then some (.bool false)
  else if t = Text.ofString "NaN" then some (.float .nan)
  else if t = Text.ofString "Infinity" then some (.float (.infinite false))
  else if t = Text.ofString "-Infinity" then some (.float (.infinite true))
  else (Numeral.ofText? t).bind numberOf?

def give (value : Json) : List Frame → Reader
  | [] => closed value
  | .array items :: frames => .open .idle .separator (.array (value :: items) :: frames)
  | .field fields key :: frames => .open .idle .separator (.object (fields.put key value) :: frames)
  | .object _ :: _ => failed

/-- The state after a whole value where `place` says what may come. -/
def giveValue (value : Json) (place : Place) (frames : List Frame) : Reader :=
  match place with
  | .value | .valueOrEnd => give value frames
  | _ => failed

def giveString (t : Text) (place : Place) (frames : List Frame) : Reader :=
  match place with
  | .value | .valueOrEnd => give (.str t) frames
  | .key | .keyOrEnd => .open .idle (.colon t) frames
  | _ => failed

variable [Machine]

/-- No more containers may be open than the machine has room for. -/
def openContainer (frame : Frame) (next place : Place) (frames : List Frame) : Reader :=
  if Machine.bodyLimit ≤ frames.length then failed
  else
    match place with
    | .value | .valueOrEnd => .open .idle next (frame :: frames)
    | _ => failed

def closeArray (place : Place) (frames : List Frame) : Reader :=
  match place, frames with
  | .valueOrEnd, .array items :: frames => give (.arr items.reverse) frames
  | .separator, .array items :: frames => give (.arr items.reverse) frames
  | _, _ => failed

def closeObject (place : Place) (frames : List Frame) : Reader :=
  match place, frames with
  | .keyOrEnd, .object fields :: frames => give (.obj fields.reverse) frames
  | .separator, .object fields :: frames => give (.obj fields.reverse) frames
  | _, _ => failed

def comma (place : Place) (frames : List Frame) : Reader :=
  match place, frames with
  | .separator, .array items :: frames => .open .idle .value (.array items :: frames)
  | .separator, .object fields :: frames => .open .idle .key (.object fields :: frames)
  | _, _ => failed

def colon (place : Place) (frames : List Frame) : Reader :=
  match place, frames with
  | .colon key, .object fields :: frames => .open .idle .value (.field fields key :: frames)
  | _, _ => failed

def stepIdle (c : CodePoint) (place : Place) (frames : List Frame) : Reader :=
  if isSpace c then .open .idle place frames
  else if c = '"' then .open (.string [] false) place frames
  else if isWordPoint c then .open (.word [c]) place frames
  else if c = '[' then openContainer (.array []) .valueOrEnd place frames
  else if c = '\x7b' then openContainer (.object []) .keyOrEnd place frames
  else if c = ']' then closeArray place frames
  else if c = '\x7d' then closeObject place frames
  else if c = ',' then comma place frames
  else if c = ':' then colon place frames
  else failed

/-- The state after a word that the next code point does not continue. -/
def endWord (taken : Text) (place : Place) (frames : List Frame) : Reader :=
  match wordValue? taken.reverse with
  | some value => giveValue value place frames
  | none => failed

def stepClosed (c : CodePoint) (value : Json) : Reader :=
  if isSpace c then closed value else failed

def shortEscaped? (c : CodePoint) : Option CodePoint :=
  if c = '"' || c = '\\' || c = '/' then some c
  else if c = 'b' then some (CodePoint.ofNat 0x08)
  else if c = 'f' then some (CodePoint.ofNat 0x0C)
  else if c = 'n' then some '\n'
  else if c = 'r' then some '\r'
  else if c = 't' then some '\t'
  else none

def hexValue? (c : CodePoint) : Option Nat :=
  if c.isAsciiDigit then some (c.val - 0x30)
  else if 0x61 ≤ c.val && c.val ≤ 0x66 then some (c.val - 0x57)
  else if 0x41 ≤ c.val && c.val ≤ 0x46 then some (c.val - 0x37)
  else none

/-- A unit named by an escape joins an escaped high surrogate before it if it is a low one. -/
def giveUnit (unit : CodePoint) (taken : Text) (high : Bool) : Lexeme :=
  match taken with
  | last :: before =>
    if high && unit.isLowSurrogate then .string (CodePoint.ofPair last unit :: before) false
    else .string (unit :: taken) unit.isHighSurrogate
  | [] => .string [unit] unit.isHighSurrogate

def step (state : Reader) (c : CodePoint) : Reader :=
  match state with
  | failed => failed
  | closed value => stepClosed c value
  | .open .idle place frames => stepIdle c place frames
  | .open (.word taken) place frames =>
    if isWordPoint c then .open (.word (c :: taken)) place frames
    else
      match endWord taken place frames with
      | closed value => stepClosed c value
      | .open _ place frames => stepIdle c place frames
      | failed => failed
  | .open (.string taken high) place frames =>
    if c = '"' then giveString taken.reverse place frames
    else if c = '\\' then .open (.escape taken high) place frames
    else if c.val < 0x20 then failed
    else .open (.string (c :: taken) false) place frames
  | .open (.escape taken high) place frames =>
    if c = 'u' then .open (.unit taken high 0 0) place frames
    else
      match shortEscaped? c with
      | some c => .open (.string (c :: taken) false) place frames
      | none => failed
  | .open (.unit taken high digits value) place frames =>
    match hexValue? c with
    | none => failed
    | some digit =>
      let value := value * 16 + digit
      if digits < 3 then .open (.unit taken high (digits + 1) value) place frames
      else .open (giveUnit (CodePoint.ofNat value) taken high) place frames

def run (state : Reader) (t : Text) : Reader := t.foldl step state

def finish : Reader → Option Json
  | closed value => some value
  | .open (.word taken) place frames =>
    match endWord taken place frames with
    | closed value => some value
    | _ => none
  | _ => none

@[simp] theorem run_append (state : Reader) (s t : Text) :
    run state (s ++ t) = run (run state s) t := List.foldl_append

end Reader

variable [Machine]

def ofText? (t : Text) : Option Json := (Reader.start.run t).finish

/-- The value written in some octets, in whichever Unicode encoding they are. -/
def ofOctets? (octets : Octets) : Option Json := (Encoding.read? octets).bind ofText?

end NodePanel.Json
