import NodePanel.Http.LabelPoint
import NodePanel.Text.Composed
import NodePanel.Text.Direction
import NodePanel.Text.Punycode
import NodePanel.Text.Quoted

/-!
The labels of host names. A label is composed text of letters, digits, marks and hyphens, in which
the directions of writing are not mixed up. On the wire a label that is not ASCII is written in
Punycode behind a sign of its own.
-/
namespace NodePanel

inductive LabelError where
  | empty
  | tooLong
  | notComposed
  | innerHyphens
  | outerHyphen
  | startsWithMark
  | point (c : CodePoint) (place : Nat) (label : Text)
  | joiner (c : CodePoint) (place : Nat) (label : Text)
  | misplaced (c : CodePoint) (place : Nat) (label : Text)
  | unknownDirection (place : Nat) (label : Text)
  | directionlessStart (label : Text)
  | wrongDirection (isRightToLeft : Bool) (place : Nat)
  | mixedNumbers
  | directionlessEnd
  | nothingEncoded
  | encodedHyphen
  | notPunycode
  | otherPunycode
  | nameTooLong
deriving DecidableEq

namespace LabelError

def pointText (c : CodePoint) : Text :=
  let digits := (Nat.toDigits 16 c.val).map fun digit => CodePoint.ofChar digit.toUpper
  Text.ofString "U+" ++ List.replicate (4 - digits.length) (CodePoint.ofChar '0') ++ digits

def message : LabelError → Text
  | empty => "Empty Label"
  | tooLong => "Label too long"
  | notComposed => "Label must be in Normalization Form C"
  | innerHyphens => "Label has disallowed hyphens in 3rd and 4th position"
  | outerHyphen => "Label must not start or end with a hyphen"
  | startsWithMark => "Label begins with an illegal combining character"
  | point c place label =>
    Text.ofString "Codepoint " ++ pointText c ++ Text.ofString " at position " ++ Text.ofNat place
      ++ Text.ofString " of " ++ Text.quoted label ++ Text.ofString " not allowed"
  | joiner c place label =>
    Text.ofString "Unknown codepoint adjacent to joiner " ++ pointText c
      ++ Text.ofString " at position " ++ Text.ofNat place ++ Text.ofString " in "
      ++ Text.quoted label
  | misplaced c place label =>
    Text.ofString "Codepoint " ++ pointText c ++ Text.ofString " not allowed at position "
      ++ Text.ofNat place ++ Text.ofString " in " ++ Text.quoted label
  | unknownDirection place label =>
    Text.ofString "Unknown directionality in label " ++ Text.quoted label
      ++ Text.ofString " at position " ++ Text.ofNat place
  | directionlessStart label =>
    Text.ofString "First codepoint in label " ++ Text.quoted label
      ++ Text.ofString " must be directionality L, R or AL"
  | wrongDirection isRightToLeft place =>
    Text.ofString "Invalid direction for codepoint at position " ++ Text.ofNat place
      ++ Text.ofString (if isRightToLeft then " in a right-to-left label"
        else " in a left-to-right label")
  | mixedNumbers => "Can not mix numeral types in a right-to-left label"
  | directionlessEnd => "Label ends with illegal codepoint directionality"
  | nothingEncoded => "Malformed A-label, no Punycode eligible content found"
  | encodedHyphen => "A-label must not end with a hyphen"
  | notPunycode => "Invalid A-label"
  | otherPunycode => "A-label is not the canonical Punycode encoding of its U-label"
  | nameTooLong => "Domain too long"

end LabelError

namespace Label

def hyphen : CodePoint := '-'

def smallL : CodePoint := 'l'

/-- Whether a joiner follows the sign that takes away a vowel or, if it keeps letters apart, stands
between letters that would be joined. Nothing is known of what a new code point does. -/
def joinerFits (before : Text) (c : CodePoint) (after : Text) : Bool :=
  (before.head?.any fun (previous : CodePoint) => previous.order == CodePoint.viramaOrder)
    || (c.val == 0x200C
      && !before.head?.any CodePoint.isLater
      && (before.dropWhile CodePoint.isTransparent).head?.any CodePoint.joinsNext
      && (after.dropWhile CodePoint.isTransparent).head?.any CodePoint.joinsPrevious)

/-- Whether a sign or an Arabic digit is in place. What stands before it comes last first. -/
def contextFits (label before : Text) (c : CodePoint) (after : Text) : Bool :=
  if c.val == 0xB7 then before.head? == some smallL && after.head? == some smallL
  else if c.val == 0x375 then after.head?.any (·.isInRuns CodePoint.greekRuns)
  else if c.val == 0x5F3 || c.val == 0x5F4 then
    before.head?.any (·.isInRuns CodePoint.hebrewRuns)
  else if c.val == 0x30FB then label.any (·.isInRuns CodePoint.japaneseRuns)
  else if c.isNumberDigit then label.all fun (d : CodePoint) => !(0x660 ≤ d.val && d.val ≤ 0x669)
  else label.all fun (d : CodePoint) => !(0x6F0 ≤ d.val && d.val ≤ 0x6F9)

/-- Check the code points of a label, given what stands before them, last first. -/
def checkPoints (label : Text) : Text → Text → Except LabelError Unit
  | _, [] => .ok ()
  | before, c :: after =>
    let place := before.length + 1
    if c.isLabelPoint || c.isLater then checkPoints label (c :: before) after
    else if c.isJoiner then
      if joinerFits before c after then checkPoints label (c :: before) after
      else .error (.joiner c place label)
    else if c.needsContext then
      if contextFits label before c after then checkPoints label (c :: before) after
      else .error (.misplaced c place label)
    else .error (.point c place label)

/-- Nothing in a label from left to right goes the other way. -/
def checkLeftToRight : Nat → List Direction → Except LabelError Unit
  | _, [] => .ok ()
  | place, d :: rest =>
    if d.turns then .error (.wrongDirection false place) else checkLeftToRight (place + 1) rest

/-- Nothing in a label from right to left goes the other way, and all its numbers are of one kind,
which is known as soon as there is one. -/
def checkRightToLeft : Nat → Option Direction → List Direction → Except LabelError Unit
  | _, _, [] => .ok ()
  | place, numbers, d :: rest =>
    if d = .leftToRight then .error (.wrongDirection true place)
    else if !d.isNumber then checkRightToLeft (place + 1) numbers rest
    else if numbers.all (· == d) then checkRightToLeft (place + 1) (some d) rest
    else .error .mixedNumbers

/-- The last direction that is not that of a mark is `start` or that of numbers that go with it. -/
def checkEnd (start : Direction) (directions : List Direction) : Except LabelError Unit :=
  match (directions.reverse.dropWhile (· == .mark)).head? with
  | none => .error .directionlessEnd
  | some d =>
    if d = start || d = .number || (start = .rightToLeft && d = .arabicNumber) then .ok ()
    else .error .directionlessEnd

/-- A label without anything that is written from right to left has no rules for its directions, but
they have to be known. -/
def checkDirections (label : Text) : Except LabelError Unit := do
  if let some index := label.findIdx? CodePoint.isLater then
    .error (.unknownDirection (index + 1) label)
  let directions := label.map CodePoint.direction
  if directions.any Direction.turns then
    match directions.head? with
    | some .rightToLeft =>
      checkRightToLeft 1 none directions
      checkEnd .rightToLeft directions
    | some .leftToRight =>
      checkLeftToRight 1 directions
      checkEnd .leftToRight directions
    | _ => .error (.directionlessStart label)

def check (t : Text) : Except LabelError Unit := do
  if t.isEmpty then .error .empty
  if !Text.isComposed t then .error .notComposed
  if (t.drop 2).take 2 = [hyphen, hyphen] then .error .innerHyphens
  if t.head? = some hyphen || t.getLast? = some hyphen then .error .outerHyphen
  if t.head?.any CodePoint.isMark then .error .startsWithMark
  checkPoints t [] t
  checkDirections t

/-- What a label on the wire begins with if it is in Punycode. -/
def encodedSign : Text := "xn--"

def limit : Nat := 63

/-- Check a label in ASCII. If it is in Punycode, what it stands for is a label that is written in
no other way. -/
def checkWire (t : Text) : Except LabelError Unit := do
  if !Text.startsWith encodedSign t then check t
  else
    let encoded := t.drop encodedSign.length
    if encoded.isEmpty then .error .nothingEncoded
    if encoded.getLast? = some hyphen then .error .encodedHyphen
    match Punycode.decode? encoded with
    | none => .error .notPunycode
    | some label =>
      check label
      if Punycode.encode label != encoded then .error .otherPunycode

def toWire (t : Text) : Except LabelError Text := do
  let wire ←
    if t.all CodePoint.isAscii then do
      checkWire t
      pure t
    else do
      check t
      pure (encodedSign ++ Punycode.encode t)
  if limit < wire.length then .error .tooLong
  pure wire

end Label

end NodePanel
