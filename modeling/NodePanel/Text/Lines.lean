import NodePanel.Text.Blank

/-!
Lines of text. A file may end its lines with LF, CR or CR LF; `unifyBreaks` turns all three into
LF. `splitLines` cuts at every line break of `CodePoint.isLineBreak`, and `inputLines` at these
three alone; neither gives an empty line for a break that ends the text.
-/
namespace NodePanel.Text

def unifyBreaks (t : Text) : Text := go t false []
where
  go : Text → Bool → Text → Text
    | [], _, done => done.reverse
    | c :: rest, afterReturn, done =>
      if c = '\r' then go rest true (CodePoint.ofChar '\n' :: done)
      else if c = '\n' then
        go rest false (if afterReturn then done else CodePoint.ofChar '\n' :: done)
      else go rest false (c :: done)

/-- The lines of a text without their breaks; CR LF is one break. -/
def splitLines (t : Text) : List Text := go t [] false []
where
  go : Text → Text → Bool → List Text → List Text
    | [], line, _, done => (if line.isEmpty then done else line.reverse :: done).reverse
    | c :: rest, line, afterReturn, done =>
      if c = '\n' && afterReturn then go rest [] false done
      else if c.isLineBreak then go rest [] (c = '\r') (line.reverse :: done)
      else go rest (c :: line) false done

/-- The lines of a text that is typed; the last one may lack its break. -/
def inputLines (t : Text) : List Text :=
  let pieces := splitOn '\n' (unifyBreaks t)
  if pieces.getLast? = some [] then pieces.dropLast else pieces

end NodePanel.Text
