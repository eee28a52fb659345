import NodePanel.Http.Label

/-!
Names of hosts: labels with points between them, and perhaps a point at the end.
-/
namespace NodePanel.HostName

def point : CodePoint := '.'

def isPoint (c : CodePoint) : Bool :=
  c = point || c.val == 0x3002 || c.val == 0xFF0E || c.val == 0xFF61

/-- The labels of a name, and whether there is a point at its end. -/
def labels (t : Text) : List Text × Bool :=
  let pieces := Text.splitOn point (t.map fun c => if isPoint c then point else c)
  if pieces.getLast? == some [] then (pieces.dropLast, true) else (pieces, false)

/-- How long a name may be, a point at its end aside. -/
def limit : Nat := 253

def toWire (t : Text) : Except LabelError Text := do
  let t := Text.lower t
  if limit + 1 < t.length then .error .nameTooLong
  let (labels, isEnded) := labels t
  let wire ← labels.mapM Label.toWire
  let name := Text.join [point] wire
  if limit < name.length then .error .nameTooLong
  pure (if isEnded then name ++ [point] else name)

/-- Check a name on the wire, label by label, if it begins with one that is in Punycode. -/
def checkWire (t : Text) : Except LabelError Unit := do
  if Text.startsWith Label.encodedSign t then
    if limit + 1 < t.length then .error .nameTooLong
    (labels t).1.forM Label.checkWire

end NodePanel.HostName
