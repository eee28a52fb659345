import NodePanel.Json.Basic

/-!
Reading a record out of data that may be wrong in many places. `Checked` is a value or all the
faults that were found, each with the keys that lead to it, so one reading reports every bad field
of a record and not only the first.
-/
namespace NodePanel

inductive FaultKind where
  | missing
  | recordType
  | intType
  | intParsing
  | intParsingSize
  | intFromFloat
  | finiteNumber
  | floatType
  | floatParsing
  | boolType
  | boolParsing
  | stringType
  | stringUnicode
  | stringTooShort
  | stringPatternMismatch
  | greaterThanEqual
  | lessThanEqual
  | dictType
  | bytesType
  | pathType
deriving DecidableEq

def FaultKind.code : FaultKind → Text
  | missing => "missing"
  | recordType => "model_type"
  | intType => "int_type"
  | intParsing => "int_parsing"
  | intParsingSize => "int_parsing_size"
  | intFromFloat => "int_from_float"
  | finiteNumber => "finite_number"
  | floatType => "float_type"
  | floatParsing => "float_parsing"
  | boolType => "bool_type"
  | boolParsing => "bool_parsing"
  | stringType => "string_type"
  | stringUnicode => "string_unicode"
  | stringTooShort => "string_too_short"
  | stringPatternMismatch => "string_pattern_mismatch"
  | greaterThanEqual => "greater_than_equal"
  | lessThanEqual => "less_than_equal"
  | dictType => "dict_type"
  | bytesType => "bytes_type"
  | pathType => "path_type"

structure Fault where
  /-- The keys from the record down to the value. -/
  place : List Text
  kind : FaultKind
deriving DecidableEq

def Fault.placeText (f : Fault) : Text := Text.join "." f.place

inductive Checked (α : Type) where
  | ok (value : α)
  | faulty (faults : List Fault)
deriving DecidableEq

namespace Checked

def map (f : α → β) : Checked α → Checked β
  | ok a => ok (f a)
  | faulty faults => faulty faults

/-- Apply a function to an argument; the faults of both sides are kept, in order. -/
def seq (f : Checked (α → β)) (a : Unit → Checked α) : Checked β :=
  match f, a () with
  | ok f, ok a => ok (f a)
  | ok _, faulty faults => faulty faults
  | faulty faults, ok _ => faulty faults
  | faulty faults, faulty others => faulty (faults ++ others)

instance : Applicative Checked where
  pure := ok
  map := map
  seq := seq

@[simp] theorem pure_eq_ok (a : α) : (pure a : Checked α) = ok a := rfl

@[simp] theorem map_ok (f : α → β) (a : α) : f <$> (ok a : Checked α) = ok (f a) := rfl

@[simp] theorem seq_ok (f : α → β) (a : α) : (ok f : Checked (α → β)) <*> ok a = ok (f a) := rfl

def ofExcept : Except FaultKind α → Checked α
  | .ok a => ok a
  | .error kind => faulty [⟨[], kind⟩]

def under (key : Text) : Checked α → Checked α
  | ok a => ok a
  | faulty faults => faulty (faults.map fun f => { f with place := key :: f.place })

def toExcept : Checked α → Except (List Fault) α
  | ok a => .ok a
  | faulty faults => .error faults

/-- The value under the first of `keys` that is present. Without any the field is `missing`, which
is a fault of the first key. -/
def field (fields : Json.Fields) (keys : List Text) (missing : Checked α)
    (read : Json → Checked α) : Checked α :=
  match keys.findSome? fun key => (fields.get? key).map (key, ·) with
  | some (key, value) => (read value).under key
  | none => missing.under (keys.headD [])

def missing : Checked α := faulty [⟨[], .missing⟩]

def required (fields : Json.Fields) (keys : List Text) (read : Json → Except FaultKind α) :
    Checked α :=
  field fields keys missing fun v => ofExcept (read v)

def optional (fields : Json.Fields) (keys : List Text) (default : α)
    (read : Json → Except FaultKind α) : Checked α :=
  field fields keys (ok default) fun v => ofExcept (read v)

def record (v : Json) (read : Json.Fields → Checked α) : Checked α :=
  match v with
  | .obj fields => read fields
  | _ => faulty [⟨[], .recordType⟩]

/-- Read every item of a list up to the first that is faulty. -/
def each (read : Json → Checked α) (items : List Json) : Except (List Fault) (List α) :=
  items.mapM fun item => (read item).toExcept

end Checked

end NodePanel
