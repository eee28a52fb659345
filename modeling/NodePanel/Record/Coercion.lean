import NodePanel.Encoding.Utf8
import NodePanel.Number.Numeral
import NodePanel.Record.Checked

/-!
What counts as an integer, a number, a truth value or a text in data that comes from outside. A text
that spells a number is one, and so is a truth value; a number with a fraction is never an integer.
-/
namespace NodePanel.Coercion

def readText : Json → Except FaultKind Text
  | .str t => .ok t
  | _ => .error .stringType

def wellFormed (t : Text) : Except FaultKind Text :=
  if t.any CodePoint.isSurrogate then .error .stringUnicode else .ok t

def underscore : CodePoint := '_'

/-- The text without its underscores, of which none is first or last or next to another. -/
def joinDigits? (t : Text) : Option Text :=
  let digits := t.filter (· != underscore)
  let pieces := Text.splitOn underscore t
  if pieces.any (·.isEmpty) then none else some digits

/-- A run of zeros at the front, with any underscores in it, counts as nothing before other code
points and as its last code point on its own. -/
def dropLeadingZeros (t : Text) : Text :=
  if t.head? == some (CodePoint.ofChar '0') then
    match t.dropWhile fun (c : CodePoint) => c = '0' || c = '_' with
    | [] => t.getLast?.toList
    | rest => rest
  else t

def takeMinus (t : Text) : Bool × Text :=
  if t.head? == some (CodePoint.ofChar '-') then (true, t.drop 1) else (false, t)

def dropPlus (t : Text) : Text :=
  if Text.startsWith "+" t && !Text.startsWith "+-" t then t.drop 1 else t

def dropZeroFraction (t : Text) : Text :=
  match Text.cut? '.' t with
  | some (whole, fraction) =>
    if !fraction.isEmpty && fraction.all (· = CodePoint.ofChar '0') then whole else t
  | none => t

/-- Digits, perhaps with a minus sign in front, of which the first is a zero only if there are no
others. -/
def plainInt? (t : Text) : Option Int :=
  let (negative, digits) := takeMinus t
  if digits.isEmpty || !digits.all CodePoint.isAsciiDigit then none
  else if 1 < digits.length && digits.head? == some (CodePoint.ofChar '0') then none
  else if integerDigitLimit < digits.length then none
  else some (Binary64.withSign negative (Numeral.digitsValue digits))

/-- Whether a text starts like an integer that is too long to be one. -/
def isOverlong (t : Text) : Bool :=
  let run := (takeMinus t).2.takeWhile CodePoint.isAsciiDigit
  run.head?.any (· != CodePoint.ofChar '0') && integerDigitLimit < run.length

/-- An integer without what its plain form leaves out: blanks around it, a plus sign, a fraction
that is zero, zeros at the front, and underscores between digits. -/
def tidied? (t : Text) : Option Text :=
  let (negative, digits) := takeMinus (dropPlus (Text.trimWhiteSpace t))
  (joinDigits? (dropLeadingZeros (dropZeroFraction digits))).map fun digits =>
    if negative then CodePoint.ofChar '-' :: digits else digits

/-- A text that is too long is told apart only where it is plain from its start. -/
def intOfText (t : Text) : Except FaultKind Int :=
  match plainInt? t with
  | some n => .ok n
  | none =>
    if isOverlong t then .error .intParsingSize
    else
      match (tidied? t).bind plainInt? with
      | some n => .ok n
      | none => .error .intParsing

def wordLimit : Nat := Nat.pow 2 63

/-- A floating-point number is an integer if it has no fraction and is less than `2 ^ 63` away from
zero. -/
def intOfFloat (x : Binary64) : Except FaultKind Int :=
  if !x.isFinite then .error .finiteNumber
  else
    match x.toInt? with
    | none => .error .intFromFloat
    | some n => if n.natAbs < wordLimit then .ok n else .error .intParsingSize

def readInt : Json → Except FaultKind Int
  | .int n => .ok n
  | .bool b => .ok (if b then 1 else 0)
  | .float x => intOfFloat x
  | .str t => wellFormed t >>= intOfText
  | _ => .error .intType

/-- A number may have blanks around it or underscores between its code points, but not both. -/
def floatOfText (t : Text) : Except FaultKind Binary64 :=
  match Text.plainBinary64? (Text.trimWhiteSpace t) with
  | some x => .ok x
  | none =>
    match (joinDigits? t).bind Text.plainBinary64? with
    | some x => .ok x
    | none => .error .floatParsing

def floatOfInt (n : Int) : Except FaultKind Binary64 :=
  let x := Binary64.ofInt n
  if x.isFinite then .ok x else .error .floatType

def readFloat : Json → Except FaultKind Binary64
  | .float x => .ok x
  | .int n => floatOfInt n
  | .bool b => .ok (Binary64.ofInt (if b then 1 else 0))
  | .str t => wellFormed t >>= floatOfText
  | _ => .error .floatType

def trueWords : List Text :=
  ["1", "on", "t", "true", "y", "yes"].map Text.ofString

def falseWords : List Text :=
  ["0", "off", "f", "false", "n", "no"].map Text.ofString

def boolOfText (t : Text) : Except FaultKind Bool :=
  let word := Text.asciiLower t
  if trueWords.contains word then .ok true
  else if falseWords.contains word then .ok false
  else .error .boolParsing

def boolOfInt (n : Int) : Except FaultKind Bool :=
  if n = 0 then .ok false
  else if n = 1 then .ok true
  else if -(wordLimit : Int) ≤ n && n < wordLimit then .error .boolParsing
  else .error .boolType

def boolOfFloat (x : Binary64) : Except FaultKind Bool :=
  match intOfFloat x with
  | .ok n => boolOfInt n
  | .error _ => .error .boolType

def readBool : Json → Except FaultKind Bool
  | .bool b => .ok b
  | .int n => boolOfInt n
  | .float x => boolOfFloat x
  | .str t => wellFormed t >>= boolOfText
  | _ => .error .boolType

def readOctets : Json → Except FaultKind Octets
  | .str t => (wellFormed t).map Utf8.encodeWide
  | _ => .error .bytesType

def atLeast (bound : Int) (n : Int) : Except FaultKind Int :=
  if bound ≤ n then .ok n else .error .greaterThanEqual

def atMost (bound : Int) (n : Int) : Except FaultKind Int :=
  if n ≤ bound then .ok n else .error .lessThanEqual

def nonneg (x : Binary64) : Except FaultKind Binary64 :=
  if x.isNonneg then .ok x else .error .greaterThanEqual

def nonempty (t : Text) : Except FaultKind Text :=
  (wellFormed t).bind fun t => if t.isEmpty then .error .stringTooShort else .ok t

def oneOf (texts : List Text) (t : Text) : Except FaultKind Text :=
  (wellFormed t).bind fun t =>
    if texts.contains t then .ok t else .error .stringPatternMismatch

end NodePanel.Coercion
