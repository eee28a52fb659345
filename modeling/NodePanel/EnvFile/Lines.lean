import NodePanel.Files.Tree
import NodePanel.Keyed

/-!
The user's file of variables as this program keeps it: a heading, then one `KEY=value` line for each
variable, in the order of the keys. Reading is more generous than that: it takes any lines, blanks
around key and value, comments, and quotes around the value. Writing some variables keeps the others
that could be read.
-/
namespace NodePanel.EnvFile

def isCommentMark (c : CodePoint) : Bool := c = '#'

def isDoubleQuote (c : CodePoint) : Bool := c = '"'

def isSingleQuote (c : CodePoint) : Bool := c = '\''

/-- Blanks, double quotes and single quotes dropped at both ends, in this order. -/
def unquoteEnds (t : Text) : Text :=
  Text.trim isSingleQuote (Text.trim isDoubleQuote (Text.strip t))

def ofLine? (line : Text) : Option (Text × Text) :=
  let line := Text.strip line
  if line.head?.any isCommentMark then none
  else
    match Text.cut? '=' line with
    | none => none
    | some (key, value) =>
      let key := Text.strip key
      if key.isEmpty then none else some (key, unquoteEnds value)

/-- The variables of a text; the last line for a variable counts. -/
def ofText (t : Text) : Keyed Text :=
  Keyed.collect ((Text.splitLines t).filterMap ofLine?)

def heading : Text := "# sakura-panel user config (.env)"

def line (entry : Text × Text) : Text := entry.1 ++ CodePoint.ofChar '=' :: entry.2

def toText (entries : Keyed Text) : Text :=
  Text.join "\n" (heading :: entries.sorted.map line) ++ Text.ofString "\n"

/-- The variables that the file at a path holds; a file that the system refuses holds none. -/
def existing (files : Tree) (path : Path) : Except FileError (Keyed Text) := do
  match ← files.entryAt? path with
  | none => pure []
  | some _ =>
    match files.readText path with
    | .ok t => pure (ofText t)
    | .error (.system _ _) => pure []
    | .error e => .error e

def assigned (values : Keyed (Option Text)) : Keyed Text :=
  values.filterMap fun (key, value) => value.map (key, ·)

/-- Put a text into a file. The file is emptied before the text is found to have no octets. -/
def replaceText (files : Tree) (path : Path) (t : Text) : Tree × Except FileError Unit :=
  match files.write path [] with
  | .error e => (files, .error e)
  | .ok emptied =>
    match Utf8.encode t with
    | .error fault => (emptied, .error (.encoding fault))
    | .ok octets =>
      match files.write path octets with
      | .error e => (emptied, .error e)
      | .ok written => (written, .ok ())

/-- Add variables to the file at a path, or change them there, and give the files afterwards. -/
def update (files : Tree) (path : Path) (values : Keyed (Option Text)) :
    Tree × Except FileError Unit :=
  match files.ensureDirectory path.parent with
  | (files, .error e) => (files, .error e)
  | (files, .ok ()) =>
    match existing files path with
    | .error e => (files, .error e)
    | .ok entries => replaceText files path (toText (entries.putAll (assigned values)))

end NodePanel.EnvFile
