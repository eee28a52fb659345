import NodePanel.Text.Basic

/-!
Markup for the console. A tag stands between brackets and begins with a small letter or one of three
signs. Backslashes right before a tag count in pairs, and one without a partner makes the tag plain
text. `escape` turns plain text into markup that shows it, `plain` is what a reader sees, and `tags`
is what the reader acts on.
-/
namespace NodePanel.Markup

def opening : CodePoint := '['

def closing : CodePoint := ']'

def backslash : CodePoint := '\\'

def startsTag (c : CodePoint) : Bool := c.isAsciiLower || c = '#' || c = '/' || c = '@'

def closes (t : Text) : Bool :=
  (t.find? fun c => c = opening || c = closing) == some closing

def isTag : Text → Bool
  | c :: first :: rest => c = opening && startsTag first && closes rest
  | _ => false

/-- Whether there is a tag at the front of a text, after any backslashes. -/
def leadsToTag (t : Text) : Bool := isTag (t.dropWhile (· = backslash))

/-- A backslash in front of every bracket that opens a tag, and of every backslash before one. -/
def escapeTags (t : Text) : Text := go t []
where
  go : Text → Text → Text
    | [], done => done.reverse
    | c :: rest, done =>
      go rest (c :: if leadsToTag (c :: rest) then backslash :: done else done)

/-- A backslash that stands alone at the end would reach what is printed next, so it gets its
partner. -/
def pairLast (t : Text) : Text :=
  match t.reverse with
  | [] => t
  | last :: before =>
    if last = backslash && before.head? != some backslash then t ++ [backslash] else t

def escape (t : Text) : Text := pairLast (escapeTags t)

/-- The text that is shown: no tags, and the second one of every two code points of which the first
one is there only to keep it from being a tag. -/
def plain (t : Text) : Text := go t false
where
  go : Text → Bool → Text
    | [], _ => []
    | c :: rest, true => go rest (c != closing)
    | c :: rest, false =>
      if isTag (c :: rest) then go rest true
      else if leadsToTag (c :: rest) then
        match rest with
        | [] => [c]
        | next :: rest => next :: go rest false
      else c :: go rest false

def tags (t : Text) : List Text := go t none
where
  /-- The second argument is what has been read of a tag, the last code point first. -/
  go : Text → Option Text → List Text
    | [], _ => []
    | c :: rest, some taken =>
      if c = closing then taken.reverse :: go rest none else go rest (some (c :: taken))
    | c :: rest, none =>
      if isTag (c :: rest) then go rest (some [])
      else if leadsToTag (c :: rest) then
        match rest with
        | [] => []
        | _ :: rest => go rest none
      else go rest none

def styled (style : String) (t : Text) : Text :=
  Text.ofString "[" ++ Text.ofString style ++ Text.ofString "]" ++ t
    ++ Text.ofString "[/" ++ Text.ofString style ++ Text.ofString "]"

end NodePanel.Markup
