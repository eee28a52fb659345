import NodePanel.EnvFile.Interpolation
import NodePanel.Proofs.EnvFile.Bindings
import NodePanel.Proofs.EnvFile.Lines

/-!
What a written file of variables binds: without quotation marks every line binds what it binds alone.
-/
namespace NodePanel.EnvFile

@[simp] theorem bindings_nil : bindings [] = [] := bindings_of_blank rfl

@[simp] theorem lines_cons (l : Text) (ls : List Text) :
    lines (l :: ls) = l ++ newline :: lines ls := by
  simp [lines, newline]

private theorem bindings_lines {ls : List Text} (h : ∀ l ∈ ls, IsBare l) :
    bindings (lines ls) = ls.filterMap bindingOfLine? := by
  induction ls with
  | nil => exact bindings_nil
  | cons l ls ih =>
    rw [lines_cons, bindings_line (h l List.mem_cons_self),
      ih fun l' hl' => h l' (List.mem_cons_of_mem _ hl'), List.filterMap_cons]
    cases bindingOfLine? l <;> rfl

theorem isBare_heading : IsBare heading := by decide

@[simp] theorem bindingOfLine?_heading : bindingOfLine? heading = none := by decide +kernel

@[simp] theorem dropMark_toText (entries : Keyed Text) :
    dropMark (toText entries) = toText entries := by
  rw [toText_eq_lines]
  rfl

theorem bindings_toText {entries : Keyed Text} (h : ∀ entry ∈ entries, IsBare (line entry)) :
    bindings (dropMark (toText entries)) =
      entries.sorted.filterMap fun entry => bindingOfLine? (line entry) := by
  have hbare : ∀ l ∈ heading :: entries.sorted.map line, IsBare l := by
    intro l hl
    rcases List.mem_cons.1 hl with rfl | hl
    · exact isBare_heading
    · obtain ⟨entry, hentry, rfl⟩ := List.mem_map.1 hl
      exact h entry (mem_sorted.1 hentry)
  rw [dropMark_toText, toText_eq_lines, bindings_lines hbare, List.filterMap_cons,
    bindingOfLine?_heading, List.filterMap_map]
  rfl

/-! Values without blanks, and names -/

def IsSolid (t : Text) : Prop := ∀ c ∈ t, c.isBlank = false

instance : DecidablePred IsSolid := fun t => inferInstanceAs (Decidable (∀ c ∈ t, _))

variable {t : Text}

theorem isInlineBlank_of_isBlank {c : CodePoint} (h : c.isBlank = false) :
    isInlineBlank c = false := by
  unfold isInlineBlank
  rw [h]
  rfl

theorem head?_any_isInlineBlank (h : t.head?.any CodePoint.isBlank = false) :
    t.head?.any isInlineBlank = false := by
  cases t with
  | nil => rfl
  | cons c t => exact isInlineBlank_of_isBlank h

theorem IsSolid.head?_any (h : IsSolid t) : t.head?.any isInlineBlank = false :=
  head?_any_isInlineBlank (Text.isTrimmed_of_forall h).head

theorem IsSolid.dropEndWhile (h : IsSolid t) : Text.dropEndWhile CodePoint.isBlank t = t :=
  (Text.isTrimmed_of_forall h).dropEndWhile

/-- The name of a variable as it is written: a key that needs no quotation marks. -/
structure IsName (name : Text) : Prop where
  ne_nil : name ≠ []
  isKeyPoint : ∀ c ∈ name, isKeyPoint c = true
  not_quote : name.head? ≠ some (CodePoint.ofChar '\'')

theorem isBlank_of_isKeyPoint {c : CodePoint} (h : isKeyPoint c = true) : c.isBlank = false := by
  simp only [isKeyPoint, Bool.and_eq_true] at h
  simpa using h.1.1

end NodePanel.EnvFile
