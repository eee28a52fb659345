import NodePanel.Proofs.Result
import NodePanel.Record.Checked

/-!
When the reading of a record succeeds: exactly if the reading of each of its fields does.
-/
namespace NodePanel.Checked

theorem map_eq_ok_iff {f : α → β} {x : Checked α} {b : β} :
    f <$> x = ok b ↔ ∃ a, x = ok a ∧ f a = b := by
  cases x with
  | ok a =>
    constructor
    · intro h
      exact ⟨a, rfl, Checked.ok.inj h⟩
    · rintro ⟨a', ha, rfl⟩
      cases ha
      rfl
  | faulty faults =>
    constructor
    · intro h
      contradiction
    · rintro ⟨a, ha, -⟩
      contradiction

theorem seq_eq_ok_iff {f : Checked (α → β)} {x : Checked α} {b : β} :
    f <*> x = ok b ↔ ∃ g a, f = ok g ∧ x = ok a ∧ g a = b := by
  constructor
  · intro h
    cases f with
    | ok g =>
      cases x with
      | ok a => exact ⟨g, a, rfl, rfl, Checked.ok.inj h⟩
      | faulty faults => contradiction
    | faulty faults => cases x <;> contradiction
  · rintro ⟨g, a, rfl, rfl, rfl⟩
    rfl

@[simp] theorem toExcept_eq_ok_iff {x : Checked α} {a : α} : x.toExcept = .ok a ↔ x = ok a := by
  cases x with
  | ok a' => exact ⟨fun h => congrArg ok (Except.ok.inj h), fun h => by cases h; rfl⟩
  | faulty faults => exact iff_of_false nofun nofun

theorem optional_eq_ok_iff {o : Json.Fields} {key : Text} {default a : α}
    {read : Json → Except FaultKind α} :
    optional o [key] default read = ok a ↔
      o.get? key = none ∧ default = a ∨ ∃ v, o.get? key = some v ∧ read v = .ok a := by
  unfold optional field
  rw [List.findSome?_cons]
  cases h : o.get? key with
  | none =>
    constructor
    · intro hdefault
      exact .inl ⟨rfl, Checked.ok.inj hdefault⟩
    · rintro (⟨-, rfl⟩ | ⟨v, hv, -⟩)
      · rfl
      · contradiction
  | some v =>
    show (ofExcept (read v)).under key = ok a ↔ _
    constructor
    · intro hread
      refine .inr ⟨v, rfl, ?_⟩
      cases hv : read v with
      | ok a' =>
        rw [hv] at hread
        exact congrArg Except.ok (Checked.ok.inj hread)
      | error kind =>
        rw [hv] at hread
        contradiction
    · rintro (⟨hnone, -⟩ | ⟨v', hv, hread⟩)
      · contradiction
      · cases hv
        rw [hread]
        rfl

end NodePanel.Checked
