import NodePanel.Encoding.Utf8

/-!
Paths of files. A path is kept in the form in which it is shown: no empty parts and no part that
means the same directory. Parts that mean the directory above stay, because what they lead to
depends on the files. Exactly two slashes at the front are a root of their own.
-/
namespace NodePanel

inductive PathRoot where
  | relative
  | slash
  | doubleSlash
deriving DecidableEq

structure Path where
  root : PathRoot
  parts : List Text
deriving DecidableEq

namespace Path

def separator : CodePoint := '/'

def rootOf (t : Text) : PathRoot :=
  match (t.takeWhile (· = separator)).length with
  | 0 => .relative
  | 2 => .doubleSlash
  | _ => .slash

def isPart (part : Text) : Bool := !part.isEmpty && part != Text.ofString "."

def ofText (t : Text) : Path :=
  { root := rootOf t, parts := (Text.splitOn separator t).filter isPart }

def rootText : PathRoot → Text
  | .relative => ""
  | .slash => "/"
  | .doubleSlash => "//"

def toText (p : Path) : Text :=
  match p.root, p.parts with
  | .relative, [] => "."
  | root, parts => rootText root ++ Text.join "/" parts

/-- The path `q` as seen from `p`; a path with a root is the same from everywhere. -/
def join (p q : Path) : Path :=
  match q.root with
  | .relative => { p with parts := p.parts ++ q.parts }
  | _ => q

def parent (p : Path) : Path := { p with parts := p.parts.dropLast }

def above : Text := ".."

def zero : CodePoint := ⟨0, by decide⟩

/-- The surrogates that stand for single octets in the name of a file. -/
def isOctetPoint (c : CodePoint) : Bool := 0xDC80 ≤ c.val && c.val ≤ 0xDCFF

def nameFault? (t : Text) : Option EncodeFault :=
  EncodeFault.find? "utf-8" "surrogates not allowed"
    (fun c => c.isSurrogate && !isOctetPoint c) CodePoint.isSurrogate t

def nameSize (t : Text) : Nat :=
  (t.flatMap fun c => if isOctetPoint c then [UInt8.ofNat c.val] else Utf8.encodePoint c).length

end Path

end NodePanel
