import NodePanel.Files.Path
import NodePanel.Text.Lines

/-!
The files that a program can see. A place is known by the names that lead to it from the working
directory; a first `/` or first `..` stand for what lies elsewhere, where only the directories on
the way are known to exist. A path leads to a place one part at a time, and each part needs a
directory to be looked up in.
-/
namespace NodePanel

inductive FileFault where
  | notFound
  | alreadyExists
  | notDirectory
  | isDirectory
  | nameTooLong
deriving DecidableEq

def FileFault.number : FileFault → Nat
  | notFound => 2
  | alreadyExists => 17
  | notDirectory => 20
  | isDirectory => 21
  | nameTooLong => 36

def FileFault.text : FileFault → Text
  | notFound => "No such file or directory"
  | alreadyExists => "File exists"
  | notDirectory => "Not a directory"
  | isDirectory => "Is a directory"
  | nameTooLong => "File name too long"

inductive FileError where
  | system (fault : FileFault) (path : Text)
  /-- A path that no file can have, because it holds a zero. -/
  | zeroInPath
  /-- A path or a text that has no octets. -/
  | encoding (fault : EncodeFault)
  | content (fault : DecodeFault)
deriving DecidableEq

def FileError.message : FileError → Text
  | system fault path =>
    Text.ofString "[Errno " ++ Text.ofNat fault.number ++ Text.ofString "] " ++ fault.text
      ++ Text.ofString ": " ++ Text.quoted path
  | zeroInPath => "embedded null byte"
  | encoding fault => fault.message
  | content fault => fault.message

inductive Entry where
  | file (octets : Octets)
  | directory
deriving DecidableEq

/-- The names that lead to a place, the last one first. Their number is kept, as it tells most
places apart without a look at the names. -/
structure Place where
  depth : Nat
  names : List Text
  depth_eq : depth = names.length
deriving DecidableEq

namespace Place

def ofNames (names : List Text) : Place := ⟨names.length, names, rfl⟩

def workingDirectory : Place := ofNames []

def root : Place := ofNames [Text.ofString "/"]

def isAbove (place : Place) : Bool := place.names.all (· == Path.above)

def isGiven (place : Place) : Bool := place == root || place.isAbove

def below (place : Place) (name : Text) : Place :=
  ⟨place.depth + 1, name :: place.names, congrArg Nat.succ place.depth_eq⟩

def parent (place : Place) : Place :=
  if place == root then place
  else if place.isAbove then place.below Path.above
  else ofNames place.names.tail

/-- Where a path leads when every part of it is a directory. -/
def ofPath (p : Path) : Place :=
  p.parts.foldl below (if p.root = .relative then workingDirectory else root)

/-- The places on the way to this one, from the first on. -/
def ancestors (place : Place) : List Place :=
  (List.range place.depth).map fun n => ofNames (place.names.drop (place.depth - n))

end Place

structure Tree where
  entries : List (Place × Entry)
deriving DecidableEq

namespace Tree

def empty : Tree := ⟨[]⟩

def partLimit : Nat := 255

def pathLimit : Nat := 4095

def entry? (t : Tree) (place : Place) : Option Entry :=
  if place.isGiven then some .directory else t.entries.lookup place

def put (t : Tree) (place : Place) (entry : Entry) : Tree :=
  ⟨(place, entry) :: t.entries.filter (·.1 != place)⟩

/-- Put an entry at a path, and directories at the places above it where there is nothing yet. -/
def place (t : Tree) (p : Path) (entry : Entry) : Tree :=
  let goal := Place.ofPath p
  let t := goal.ancestors.foldl
    (fun t place => if (t.entry? place).isSome then t else t.put place .directory) t
  t.put goal entry

/-- The place of a part of a path, looked up at another place. -/
def enter (t : Tree) (place : Place) (part : Text) : Except FileFault Place :=
  match t.entry? place with
  | none => .error .notFound
  | some (.file _) => .error .notDirectory
  | some .directory =>
    if part = Path.above then .ok place.parent
    else if partLimit < Path.nameSize part then .error .nameTooLong
    else .ok (place.below part)

def resolve (t : Tree) (p : Path) : Except FileFault Place :=
  if pathLimit < Path.nameSize p.toText then .error .nameTooLong
  else p.parts.foldlM t.enter (if p.root = .relative then .workingDirectory else .root)

def find (t : Tree) (p : Path) : Except FileFault Entry := do
  match t.entry? (← t.resolve p) with
  | some entry => pure entry
  | none => .error .notFound

def pathError? (p : Path) : Option FileError :=
  match Path.nameFault? p.toText with
  | some fault => some (.encoding fault)
  | none => if p.toText.contains Path.zero then some .zeroInPath else none

def located (p : Path) (result : Except FileFault α) : Except FileError α :=
  result.mapError (.system · p.toText)

def guard (p : Path) : Except FileError Unit :=
  match pathError? p with
  | some error => .error error
  | none => .ok ()

def read (t : Tree) (p : Path) : Except FileError Octets := do
  guard p
  located p do
    match ← t.find p with
    | .file octets => pure octets
    | .directory => .error .isDirectory

/-- The text of a file, with every line break as one LF. -/
def readText (t : Tree) (p : Path) : Except FileError Text := do
  let octets ← t.read p
  match Utf8.decode octets with
  | .ok text => pure (Text.unifyBreaks text)
  | .error fault => .error (.content fault)

/-- The entry that a path leads to, if any; only a name that is too long is an error. -/
def entryAt? (t : Tree) (p : Path) : Except FileError (Option Entry) :=
  match pathError? p with
  | some _ => .ok none
  | none =>
    match t.find p with
    | .ok entry => .ok (some entry)
    | .error .nameTooLong => .error (.system .nameTooLong p.toText)
    | .error _ => .ok none

def isFile (t : Tree) (p : Path) : Except FileError Bool := do
  match ← t.entryAt? p with
  | some (.file _) => pure true
  | _ => pure false

def isDirectory (t : Tree) (p : Path) : Bool :=
  match t.find p with
  | .ok .directory => true
  | _ => false

def write (t : Tree) (p : Path) (octets : Octets) : Except FileError Tree := do
  guard p
  located p do
    let place ← t.resolve p
    match t.entry? place with
    | some .directory => .error .isDirectory
    | _ => pure (t.put place (.file octets))

def makeDirectory (t : Tree) (p : Path) : Except FileFault Tree := do
  let place ← t.resolve p
  match t.entry? place with
  | some _ => .error .alreadyExists
  | none => pure (t.put place .directory)

def ensureOne (t : Tree) (p : Path) : Tree × Except FileError Unit :=
  match t.makeDirectory p with
  | .ok made => (made, .ok ())
  | .error fault => (t, if t.isDirectory p then .ok () else .error (.system fault p.toText))

/-- Make a directory and, from the last one that is there, all those above it; those made before
one that fails stay. The parts are reversed. -/
def ensureFrom (t : Tree) (root : PathRoot) : List Text → Tree × Except FileError Unit
  | [] => t.ensureOne ⟨root, []⟩
  | part :: parts =>
    let p : Path := ⟨root, (part :: parts).reverse⟩
    match t.makeDirectory p with
    | .error .notFound =>
      match t.ensureFrom root parts with
      | (above, .ok ()) => above.ensureOne p
      | (above, .error e) => (above, .error e)
    | _ => t.ensureOne p

/-- Make a directory and those above it, and give the files afterwards. -/
def ensureDirectory (t : Tree) (p : Path) : Tree × Except FileError Unit :=
  match guard p with
  | .error e => (t, .error e)
  | .ok () => t.ensureFrom p.root p.parts.reverse

end Tree

end NodePanel
