import NodePanel.Json.Basic
import NodePanel.Text.Quoted

/-!
The text of a JSON value. A style says what stands between items and after keys, and whether only
visible ASCII is written as itself. The text is built back to front, so that a long array takes no
deeper recursion than a short one.
-/
namespace NodePanel.Json

structure Style where
  itemSeparator : Text
  keySeparator : Text
  asciiOnly : Bool

def Style.ascii : Style := ⟨", ", ": ", true⟩

def Style.spaced : Style := ⟨", ", ": ", false⟩

def Style.compact : Style := ⟨",", ":", false⟩

def unitEscape (n : Nat) : Text := Text.ofString "\\u" ++ hexText 4 n

def pointEscape (c : CodePoint) : Text :=
  if c.val < 0x10000 then unitEscape c.val
  else
    unitEscape (0xD800 + (c.val - 0x10000) / 0x400)
      ++ unitEscape (0xDC00 + (c.val - 0x10000) % 0x400)

def shortEscape? (c : CodePoint) : Option Text :=
  if c = '"' then some "\\\""
  else if c = '\\' then some "\\\\"
  else if c = '\n' then some "\\n"
  else if c = '\r' then some "\\r"
  else if c = '\t' then some "\\t"
  else if c.val = 0x0C then some "\\f"
  else if c.val = 0x08 then some "\\b"
  else none

def pointText (asciiOnly : Bool) (c : CodePoint) : Text :=
  match shortEscape? c with
  | some escape => escape
  | none => if c.val < 0x20 || (asciiOnly && 0x7F ≤ c.val) then pointEscape c else [c]

def stringText (asciiOnly : Bool) (t : Text) : Text :=
  CodePoint.ofChar '"' :: (t.flatMap (pointText asciiOnly) ++ [CodePoint.ofChar '"'])

def floatText (x : Binary64) : Text := x.textWith "Infinity" "NaN"

def push (t done : Text) : Text := t.reverse ++ done

mutual

def writeOnto (style : Style) : Json → Text → Text
  | null, done => push "null" done
  | bool b, done => push (if b then "true" else "false") done
  | int n, done => push (Text.ofInt n) done
  | float x, done => push (floatText x) done
  | str t, done => push (stringText style.asciiOnly t) done
  | arr items, done =>
    CodePoint.ofChar ']' :: writeItems style false items (CodePoint.ofChar '[' :: done)
  | obj fields, done =>
    CodePoint.ofChar '}' :: writeFields style false fields (CodePoint.ofChar '{' :: done)

/-- The items of an array; `later` says that an item stands before them. -/
def writeItems (style : Style) (later : Bool) : List Json → Text → Text
  | [], done => done
  | item :: items, done =>
    let done := if later then push style.itemSeparator done else done
    writeItems style true items (writeOnto style item done)

def writeFields (style : Style) (later : Bool) : List (Text × Json) → Text → Text
  | [], done => done
  | (key, value) :: fields, done =>
    let done := if later then push style.itemSeparator done else done
    let done := push style.keySeparator (push (stringText style.asciiOnly key) done)
    writeFields style true fields (writeOnto style value done)

end

def write (style : Style) (v : Json) : Text := (writeOnto style v []).reverse

end NodePanel.Json
