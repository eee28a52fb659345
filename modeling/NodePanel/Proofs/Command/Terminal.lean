import NodePanel.Proofs.Console.Markup

/-!
What a command prints. Items are printed in their order until the console refuses one, which ends the
command, and printing leaves everything else as it is.
-/
namespace NodePanel

/-- A console that shows tags for styles of any name, reads no handlers, and writes everything. -/
def Console.usual : Console where
  readsTags := true
  styleName := id
  readsParameters _ := false
  writes _ := true

namespace Console

variable {console : Console} {shown : Printed}

theorem fault?_eq_none_iff : console.fault? shown = none ↔
    (∀ t ∈ shown.markups, console.takesMarkup t = true) ∧ console.writes shown = true := by
  unfold fault?
  rw [← List.all_eq_true]
  cases shown.markups.all console.takesMarkup <;> cases console.writes shown <;> simp

end Console

namespace Terminal

def Takes (t : Terminal) (items : List Printed) : Prop :=
  ∀ shown ∈ items, t.console.fault? shown = none

instance (t : Terminal) (items : List Printed) : Decidable (t.Takes items) :=
  inferInstanceAs (Decidable (∀ shown ∈ items, _))

def withPrinted (t : Terminal) (items : List Printed) : Terminal :=
  { t with printed := t.printed ++ items }

variable {t : Terminal} {items : List Printed}

@[simp] theorem withPrinted_nil (t : Terminal) : t.withPrinted [] = t := by simp [withPrinted]

@[simp] theorem withPrinted_withPrinted (t : Terminal) (items more : List Printed) :
    (t.withPrinted items).withPrinted more = t.withPrinted (items ++ more) := by
  simp [withPrinted]

@[simp] theorem print_nil (t : Terminal) (go : Terminal → Terminal × Ending) :
    t.print [] go = go t :=
  rfl

theorem print_cons (t : Terminal) (shown : Printed) (items : List Printed)
    (go : Terminal → Terminal × Ending) : t.print (shown :: items) go =
      match t.console.fault? shown with
      | some error => t.stop (.console error)
      | none => (t.withPrinted [shown]).print items go :=
  rfl

theorem print_of_takes (h : t.Takes items) (go : Terminal → Terminal × Ending) :
    t.print items go = go (t.withPrinted items) := by
  induction items generalizing t with
  | nil => simp
  | cons shown items ih =>
    obtain ⟨hshown, hitems⟩ := List.forall_mem_cons.1 h
    have hrest : (t.withPrinted [shown]).Takes items := hitems
    rw [print_cons, hshown]
    exact (ih hrest).trans (by rw [withPrinted_withPrinted]; rfl)

/-- The items before the first that is refused are printed. -/
theorem print_of_not_takes (h : ¬ t.Takes items) (go : Terminal → Terminal × Ending) :
    ∃ front back error, items = front ++ back ∧ back ≠ [] ∧
      t.print items go = (t.withPrinted front).stop (.console error) := by
  induction items generalizing t with
  | nil => exact absurd (List.forall_mem_nil _) h
  | cons shown items ih =>
    cases hshown : t.console.fault? shown with
    | some error =>
      refine ⟨[], shown :: items, error, rfl, List.cons_ne_nil _ _, ?_⟩
      rw [print_cons, hshown, withPrinted_nil]
    | none =>
      have hrest : ¬ (t.withPrinted [shown]).Takes items := fun hitems =>
        h (List.forall_mem_cons.2 ⟨hshown, hitems⟩)
      obtain ⟨front, back, error, hsplit, hne, hprint⟩ := ih hrest
      refine ⟨shown :: front, back, error, by rw [hsplit]; rfl, hne, ?_⟩
      rw [print_cons, hshown]
      simpa using hprint

@[simp] theorem channel_print_finish (t : Terminal) (items : List Printed) (ending : Ending) :
    (t.print items (finish ending)).1.channel = t.channel := by
  by_cases htakes : t.Takes items
  · rw [print_of_takes htakes]
    rfl
  · obtain ⟨front, back, error, -, -, hprint⟩ := print_of_not_takes htakes (finish ending)
    rw [hprint]
    rfl

theorem eq_of_print_eq_exit {ending : Ending} {t' : Terminal} {code : Nat}
    (h : t.print items (finish ending) = (t', .exit code)) : t' = t.withPrinted items := by
  by_cases htakes : t.Takes items
  · rw [print_of_takes htakes] at h
    exact (Prod.mk.inj h).1.symm
  · obtain ⟨front, back, error, -, -, hprint⟩ := print_of_not_takes htakes (finish ending)
    cases hprint.symm.trans h

end Terminal

end NodePanel
