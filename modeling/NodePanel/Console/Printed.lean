import NodePanel.Console.Markup

/-!
What is printed, before anything is laid out: lines of markup, tables of cells, and framed texts.
-/
namespace NodePanel

structure Table where
  title : Text
  columns : List Text
  rows : List (List Text)
deriving DecidableEq

inductive Printed where
  | markup (t : Text)
  | table (shown : Table)
  | panel (title : Option Text) (t : Text)
deriving DecidableEq

namespace Printed

/-- What a panel leaves out, since it would break the frame: the bell, the backspace, and three of
the controls that move to another line. -/
def breaksFrame (c : CodePoint) : Bool :=
  c.val == 0x07 || c.val == 0x08 || (0x0B ≤ c.val && c.val ≤ 0x0D)

def framed (title : Option Text) (t : Text) : Printed := panel title (t.filter (!breaksFrame ·))

def markups : Printed → List Text
  | markup t => [t]
  | table shown => shown.title :: (shown.columns ++ shown.rows.flatten)
  | panel _ _ => []

def cellGap : Text := "  "

def plainLines : Printed → List Text
  | markup t => [Markup.plain t]
  | table shown => shown.title :: (shown.columns :: shown.rows).map (Text.join cellGap)
  | panel title t => title.toList ++ [t]

end Printed

end NodePanel
