import NodePanel.EnvFile.Bindings
import NodePanel.Keyed

/-!
What the bindings of a settings file come to. In values `${NAME}` and `${NAME:-default}` stand for
variables, the ones that the file has bound so far before those of the environment.
-/
namespace NodePanel.EnvFile

/-- What of a variable comes after its name: its default and the text after it. -/
def readDefault? (t : Text) : Option (Text × Text) :=
  match t with
  | c :: d :: rest =>
    if c = '\x7d' then some ([], d :: rest)
    else if c = ':' && d = '-' then Text.cut? '\x7d' rest
    else none
  | [c] => if c = '\x7d' then some ([], []) else none
  | [] => none

def isNamePoint (c : CodePoint) : Bool := c != CodePoint.ofChar '\x7d' && c != CodePoint.ofChar ':'

/-- A variable in a value: its name and default, and the text after it. -/
def readVariable? (t : Text) : Option (Text × Text × Text) :=
  match t with
  | c :: d :: rest =>
    if c = '$' && d = '\x7b' then
      (readDefault? (rest.dropWhile isNamePoint)).map fun (default, after) =>
        (rest.takeWhile isNamePoint, default, after)
    else none
  | _ => none

theorem length_lt_of_readDefault? {t default after : Text}
    (h : readDefault? t = some (default, after)) : after.length < t.length := by
  unfold readDefault? at h
  split at h
  next c d rest =>
    split at h
    next => cases h; exact Nat.lt_succ_self _
    next =>
      split at h
      next =>
        have := Text.length_lt_of_cut? h
        rw [List.length_cons, List.length_cons]
        omega
      next => contradiction
  next c =>
    split at h
    next => cases h; exact Nat.zero_lt_one
    next => contradiction
  next => contradiction

theorem length_lt_of_readVariable? {t name default after : Text}
    (h : readVariable? t = some (name, default, after)) : after.length < t.length := by
  unfold readVariable? at h
  split at h
  next c d rest =>
    split at h
    next =>
      obtain ⟨found, hfound, heq⟩ := Option.map_eq_some_iff.1 h
      cases heq
      have shorter := length_lt_of_readDefault? hfound
      have := (List.dropWhile_suffix (l := rest) isNamePoint).length_le
      rw [List.length_cons, List.length_cons]
      omega
    next => contradiction
  next => contradiction

def interpolate (valueOf : Text → Text → Text) (t : Text) : Text :=
  match t with
  | [] => []
  | c :: rest =>
    match _h : readVariable? (c :: rest) with
    | some (name, default, after) => valueOf name default ++ interpolate valueOf after
    | none => c :: interpolate valueOf rest
termination_by t.length
decreasing_by
  · exact length_lt_of_readVariable? _h
  · exact Nat.lt_succ_self _

/-- The value of a variable among those bound so far and then in the environment. A variable that is
bound to nothing is empty. -/
def variableValue (environment : Keyed Text) (bound : Keyed (Option Text)) (name default : Text) :
    Text :=
  match bound.get? name with
  | some value => value.getD []
  | none => (environment.get? name).getD default

def resolve (environment : Keyed Text) (bindings : List Binding) : Keyed (Option Text) :=
  bindings.foldl
    (fun bound (name, value) =>
      bound.put name (value.map (interpolate (variableValue environment bound))))
    []

def byteOrderMark : Nat := 0xFEFF

/-- A byte order mark at the front is no part of a text. -/
def dropMark (t : Text) : Text := if t.head?.any (·.val == byteOrderMark) then t.drop 1 else t

def bindingsOfText (environment : Keyed Text) (t : Text) : Keyed (Option Text) :=
  resolve environment (bindings (dropMark t))

end NodePanel.EnvFile
