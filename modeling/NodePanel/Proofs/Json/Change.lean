import NodePanel.Json.Basic
import NodePanel.Proofs.Keyed

/-!
Values that are put under keys anywhere inside a value. What is found under a key changes only with
what is put in that very place or further in, and whatever is put further in leaves a container a
container and everything else as it is.
-/
namespace NodePanel.Json

inductive Step where
  | field (name : Text)
  | item (i : Nat)
deriving DecidableEq

variable {key other name : Text} {w v : Json} {path : List Step}

/-- Put `w` under `key` in the object at the end of a path; without an object there nothing
changes. -/
def putAt (key : Text) (w : Json) : List Step → Json → Json
  | [], obj fields => obj (Keyed.put fields key w)
  | .field name :: path, obj fields => obj (Keyed.change fields name (putAt key w path))
  | .item i :: path, arr items => arr (items.modify i (putAt key w path))
  | _, v => v

/-- A value under a key of an object that is somewhere inside another value. -/
structure Addition where
  path : List Step
  key : Text
  value : Json

def add (v : Json) (a : Addition) : Json := putAt a.key a.value a.path v

/-! What is found under a key -/

theorem get?_put_of_ne (h : other ≠ key) : (putAt key w [] v).get? other = v.get? other := by
  cases v with
  | obj fields => exact Keyed.get?_put.trans (if_neg h)
  | _ => rfl

@[simp] theorem get?_putAt_field :
    (putAt key w (.field name :: path) v).get? other =
      if other = name then (v.get? name).map (putAt key w path) else v.get? other := by
  cases v with
  | obj fields => exact Keyed.get?_change
  | _ => exact (ite_self none).symm

@[simp] theorem get?_putAt_item (i : Nat) :
    (putAt key w (.item i :: path) v).get? other = v.get? other := by
  cases v <;> rfl

/-! What happens to the value itself -/

def isContainer : Json → Bool
  | arr _ => true
  | obj _ => true
  | _ => false

@[simp] theorem isContainer_putAt : (putAt key w path v).isContainer = v.isContainer := by
  cases path with
  | nil => cases v <;> rfl
  | cons step path => cases step <;> cases v <;> rfl

theorem putAt_eq_self (h : v.isContainer = false) : putAt key w path v = v := by
  cases path with
  | nil => cases v <;> first | rfl | contradiction
  | cons step path => cases step <;> cases v <;> first | rfl | contradiction

end NodePanel.Json
