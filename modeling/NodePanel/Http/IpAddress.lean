import NodePanel.Number.Numeral

/-!
Addresses of hosts that are numbers: four octets with points between them, or eight groups of
hexadecimal digits with colons between them. Of the groups two colons in a row leave out one or
more, the last two may be written as four octets, and a zone may follow after a percent sign.
-/
namespace NodePanel.IpAddress

def isOctet (t : Text) : Bool :=
  !t.isEmpty && t.length ≤ 3 && t.all CodePoint.isAsciiDigit && Numeral.digitsValue t ≤ 255
    && (t.length == 1 || t.head? != some (CodePoint.ofChar '0'))

def isVersion4 (t : Text) : Bool :=
  let pieces := Text.splitOn '.' t
  pieces.length == 4 && pieces.all isOctet

def looksLikeVersion4 (t : Text) : Bool :=
  let pieces := Text.splitOn '.' t
  pieces.length == 4
    && pieces.all fun piece => !piece.isEmpty && piece.all CodePoint.isAsciiDigit

def isGroup (t : Text) : Bool := !t.isEmpty && t.length ≤ 4 && t.all CodePoint.isHexDigit

def colon : CodePoint := ':'

/-- What stands before and after the first two colons in a row. -/
def cutGap? : Text → Option (Text × Text)
  | [] => none
  | c :: rest =>
    if c = colon && rest.head? == some colon then some ([], rest.drop 1)
    else (cutGap? rest).map fun (before, after) => (c :: before, after)

/-- How many groups stand between single colons. If `octets`, the last group may be four octets,
which count as two. -/
def groupCount? (octets : Bool) (t : Text) : Option Nat :=
  let pieces := if t.isEmpty then [] else Text.splitOn colon t
  match pieces.getLast? with
  | none => some 0
  | some last =>
    if !pieces.dropLast.all isGroup then none
    else if isGroup last then some pieces.length
    else if octets && isVersion4 last then some (pieces.length + 1)
    else none

def isGroups (t : Text) : Bool :=
  match cutGap? t with
  | none => groupCount? true t == some 8
  | some (before, after) =>
    match groupCount? false before, groupCount? true after with
    | some high, some low => high + low ≤ 7
    | _, _ => false

def isZone (t : Text) : Bool := !t.isEmpty && !t.contains (CodePoint.ofChar '%')

def isVersion6 (t : Text) : Bool :=
  match Text.cut? '%' t with
  | none => isGroups t
  | some (groups, zone) => isGroups groups && isZone zone

end NodePanel.IpAddress
