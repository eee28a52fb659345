import NodePanel.Console.Markup
import NodePanel.Console.Printed
import NodePanel.Text.Blank

/-!
What a console takes. The tags in lines of markup and in tables have to fit together: each one that
closes something needs something open, while it does not matter what stays open at the end. And what
is laid out has to be written somewhere, where there may be no room for every code point.
-/
namespace NodePanel

/-- The name of a tag and what stands behind an equality sign. -/
structure Tag where
  name : Text
  parameters : Option Text
deriving DecidableEq

namespace Tag

def ofText (t : Text) : Tag :=
  match Text.cut? '=' t with
  | none => ⟨t, none⟩
  | some (name, parameters) => ⟨name, some parameters⟩

def closed? (tag : Tag) : Option Text :=
  match tag.name with
  | c :: name => if c = '/' then some (Text.strip name) else none
  | [] => none

def isHandler (tag : Tag) : Bool := tag.name.head? == some (CodePoint.ofChar '@')

end Tag

inductive ConsoleError where
  | markup
  | output
deriving DecidableEq

structure Console where
  /-- Whether tags are read at all. -/
  readsTags : Bool
  /-- What the name of a style stands for. -/
  styleName : Text → Text
  /-- Whether the parameters of a handler can be read. -/
  readsParameters : Text → Bool
  /-- Whether something can be written once it is laid out. -/
  writes : Printed → Bool

namespace Console

def take? (asked : Tag → Bool) : List Tag → Option (Tag × List Tag)
  | [] => none
  | tag :: tags =>
    if asked tag then some (tag, tags)
    else (take? asked tags).map fun (found, rest) => (found, tag :: rest)

variable (console : Console)

def takesClosed (tag : Tag) : Bool :=
  !tag.isHandler || tag.parameters.all fun t => t.isEmpty || console.readsParameters t

/-- Whether tags fit together behind those that are open, the last one first. Without a name the last
one is closed. -/
def takesTags : List Tag → List Tag → Bool
  | _, [] => true
  | opened, tag :: tags =>
    match tag.closed? with
    | none => takesTags ({ tag with name := console.styleName tag.name } :: opened) tags
    | some name =>
      match take? (fun tag => name.isEmpty || tag.name == console.styleName name) opened with
      | none => false
      | some (tag, opened) => console.takesClosed tag && takesTags opened tags

def takesMarkup (t : Text) : Bool :=
  !console.readsTags || console.takesTags [] ((Markup.tags t).map Tag.ofText)

def fault? (shown : Printed) : Option ConsoleError :=
  if !shown.markups.all console.takesMarkup then some .markup
  else if !console.writes shown then some .output
  else none

end Console

end NodePanel
