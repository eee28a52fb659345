import NodePanel.Panel.Projection
import NodePanel.Proofs.Json.Change
import NodePanel.Proofs.Json.Limits
import NodePanel.Proofs.Number.Integer
import NodePanel.Proofs.Panel.Envelope

/-!
Lenient reading. A kind of values has a reader that never fails: it gives what the kind says where a
value of that kind is, and the empty value of the kind everywhere else. What is read under a key is
described by a relation on the tree, which no reader occurs in.
-/
namespace NodePanel

namespace Json

variable {v w : Json} {key : Text} {n : Int} {levels : Nat} {p : Text → Prop}

inductive HasField : Json → Text → Json → Prop where
  | intro {fields : Fields} {key : Text} {w : Json} (h : fields.get? key = some w) :
    HasField (.obj fields) key w

theorem get?_eq_some_iff : v.get? key = some w ↔ v.HasField key w := by
  constructor
  · intro h
    cases v with
    | obj fields => exact .intro h
    | _ => contradiction
  · rintro ⟨h⟩
    exact h

/-- An integer that counts as a limit: a negative one is the limit zero. -/
def IsLimit (v : Json) (limit : Nat) : Prop := ∃ n, v.IsInteger n ∧ (limit : Int) = max 0 n

theorem Fits.field (h : v.Fits p levels) (hfield : v.HasField key w) : w.Fits p levels := by
  obtain ⟨hget⟩ := hfield
  exact h.get? hget

end Json

namespace Lenient

structure Kind (α : Type) where
  IsA : Json → α → Prop
  zero : α
  read : Option Json → α
  read_value : ∀ {v : Json} {a : α}, IsA v a → read (some v) = a
  read_other : ∀ {v : Json}, (∀ a, ¬ IsA v a) → read (some v) = zero
  read_absent : read none = zero

namespace Kind

variable {α : Type} (kind : Kind α) {v w : Json} {key other : Text} {a : α}

/-- What is read under a key: the value there, if it is of the kind, and otherwise the empty one. -/
inductive Reads (v : Json) (key : Text) : α → Prop where
  | value {w : Json} {a : α} (hfield : v.HasField key w) (h : kind.IsA w a) : Reads v key a
  | other (h : ∀ w a, v.HasField key w → ¬ kind.IsA w a) : Reads v key kind.zero

variable {kind}

theorem reads_iff : kind.Reads v key a ↔ kind.read (v.get? key) = a := by
  constructor
  · rintro (⟨hfield, h⟩ | h)
    · rw [Json.get?_eq_some_iff.2 hfield, kind.read_value h]
    · cases hget : v.get? key with
      | none => exact kind.read_absent
      | some w => exact kind.read_other fun a => h w a (Json.get?_eq_some_iff.1 hget)
  · rintro rfl
    cases hget : v.get? key with
    | none =>
      rw [kind.read_absent]
      apply Reads.other
      intro w a hfield
      rw [Json.get?_eq_some_iff.2 hfield] at hget
      contradiction
    | some w =>
      have hfield := Json.get?_eq_some_iff.1 hget
      by_cases h : ∃ a, kind.IsA w a
      · obtain ⟨a, ha⟩ := h
        rw [kind.read_value ha]
        exact .value hfield ha
      · rw [kind.read_other (not_exists.1 h)]
        apply Reads.other
        intro w' a hfield'
        rw [← Json.get?_eq_some_iff, hget] at hfield'
        cases hfield'
        exact not_exists.1 h a

def IsScalar (kind : Kind α) : Prop := ∀ v a, kind.IsA v a → v.isContainer = false

theorem IsScalar.read_container (h : kind.IsScalar) (hv : v.isContainer = true) :
    kind.read (some v) = kind.zero := by
  apply kind.read_other
  intro a ha
  rw [h v a ha] at hv
  contradiction

private theorem IsScalar.read_map_putAt (h : kind.IsScalar) (path : List Json.Step)
    (x : Option Json) :
    kind.read (x.map (Json.putAt key w path)) = kind.read x := by
  cases x with
  | none => rfl
  | some v =>
    rw [Option.map_some]
    cases hv : v.isContainer with
    | false => rw [Json.putAt_eq_self hv]
    | true => rw [h.read_container hv, h.read_container (Json.isContainer_putAt.trans hv)]

/-- What is read under a key changes only with what is put under that key itself. -/
theorem IsScalar.read_putAt (h : kind.IsScalar) {path : List Json.Step}
    (hne : path = [] → other ≠ key) :
    kind.read ((Json.putAt key w path v).get? other) = kind.read (v.get? other) := by
  cases path with
  | nil => rw [Json.get?_put_of_ne (hne rfl)]
  | cons step path =>
    cases step with
    | field name =>
      rw [Json.get?_putAt_field]
      split
      next hname => rw [h.read_map_putAt, hname]
      next => rfl
    | item i => rw [Json.get?_putAt_item]

end Kind

/-! The kinds of the fields -/

@[simp] theorem int_some (v : Json) : int (some v) = (Envelope.codeOf v).getD 0 := by
  cases v <;> rfl

theorem int_eq {v : Json} {n : Int} (h : v.IsInteger n) : int (some v) = n := by
  rw [int_some, Envelope.codeOf_eq_some_iff.2 h]
  rfl

theorem int_eq_zero {v : Json} (h : ∀ n, ¬ v.IsInteger n) : int (some v) = 0 := by
  have hnone : Envelope.codeOf v = none :=
    Option.eq_none_iff_forall_ne_some.2 fun n hn => h n (Envelope.codeOf_eq_some_iff.1 hn)
  rw [int_some, hnone]
  rfl

namespace Kind

def integer : Kind Int where
  IsA := Json.IsInteger
  zero := 0
  read := int
  read_value := int_eq
  read_other := int_eq_zero
  read_absent := rfl

def limit : Kind Nat where
  IsA := Json.IsLimit
  zero := 0
  read := nat
  read_value := by
    rintro v a ⟨n, hn, ha⟩
    unfold nat
    rw [int_eq hn]
    omega
  read_other := by
    intro v h
    unfold nat
    rw [int_eq_zero fun n hn => h n.toNat ⟨n, hn, by omega⟩]
    rfl
  read_absent := rfl

def text : Kind Text where
  IsA v t := v = .str t
  zero := []
  read := Lenient.text
  read_value := by
    rintro v t rfl
    rfl
  read_other := by
    intro v h
    cases v with
    | str t => exact absurd rfl (h t)
    | _ => rfl
  read_absent := rfl

def bool : Kind Bool where
  IsA v b := v = .bool b
  zero := false
  read := Lenient.bool
  read_value := by
    rintro v b rfl
    rfl
  read_other := by
    intro v h
    cases v with
    | bool b => exact absurd rfl (h b)
    | _ => rfl
  read_absent := rfl

def list : Kind (List Json) where
  IsA v items := v = .arr items
  zero := []
  read := Lenient.list
  read_value := by
    rintro v items rfl
    rfl
  read_other := by
    intro v h
    cases v with
    | arr items => exact absurd rfl (h items)
    | _ => rfl
  read_absent := rfl

theorem isScalar_integer : integer.IsScalar := by
  rintro v n (_ | _) <;> rfl

theorem isScalar_text : text.IsScalar := by
  rintro v t rfl
  rfl

variable {v : Json} {key : Text} {levels : Nat} {p : Text → Prop}

theorem Reads.hasText {n : Int} (h : integer.Reads v key n) (hfits : v.Fits p levels) : HasText n := by
  cases h with
  | value hfield hinteger => exact hinteger.hasText (hfits.field hfield)
  | other => exact (by decide : HasText 0)

theorem Reads.fits_item {items : List Json} (h : list.Reads v key items) (hfits : v.Fits p levels)
    {item : Json} (hitem : item ∈ items) : item.Fits p levels := by
  cases h with
  | value hfield hlist =>
    subst hlist
    exact (hfits.field hfield).item hitem
  | other => contradiction

end Kind

end Lenient

end NodePanel
