import Mathlib.Data.List.Lex
import Mathlib.Data.List.Nodup
import NodePanel.Proofs.Keyed

/-!
Entries in the order of their keys. Texts are ordered by the numbers of their code points, a proper
beginning before what it begins. Entries that are in this order are determined by what is found under
each key.
-/
namespace NodePanel

namespace Text

def codes (t : Text) : List Nat := t.map CodePoint.val

def Precedes (s t : Text) : Prop := List.Lex (· < ·) s.codes t.codes

private theorem codes_injective : Function.Injective codes :=
  List.map_injective_iff.2 fun c d h => by
    cases c
    cases d
    cases h
    rfl

theorem le_iff {s t : Text} : le s t = true ↔ ¬ Precedes t s := by
  unfold Precedes
  induction s generalizing t with
  | nil => exact iff_of_true rfl List.not_lex_nil
  | cons a s ih =>
    cases t with
    | nil => exact iff_of_false Bool.false_ne_true (not_not_intro .nil)
    | cons b t =>
      have hcons : List.Lex (· < ·) (codes (b :: t)) (codes (a :: s)) ↔
          b.val < a.val ∨ b.val = a.val ∧ List.Lex (· < ·) (codes t) (codes s) :=
        List.cons_lex_cons_iff
      rw [hcons, not_or, not_and, ← ih]
      simp only [le, Bool.or_eq_true, decide_eq_true_eq, Bool.and_eq_true, beq_iff_eq]
      grind

theorem Precedes.asymm {s t : Text} (h : Precedes s t) : ¬ Precedes t s :=
  Std.Asymm.asymm (r := List.Lex (· < ·)) s.codes t.codes h

theorem Precedes.ne {s t : Text} (h : Precedes s t) : s ≠ t := by
  rintro rfl
  exact h.asymm h

theorem le_trans {s t u : Text} (hst : le s t = true) (htu : le t u = true) : le s u = true := by
  rw [le_iff] at *
  exact fun h => (IsOrderConnected.conn _ t.codes _ h).elim htu hst

private theorem le_total (s t : Text) : (le s t || le t s) = true := by
  rw [Bool.or_eq_true, le_iff, le_iff, ← not_and_or]
  exact fun h => h.1.asymm h.2

theorem precedes_of_le_of_ne {s t : Text} (hle : le s t = true) (hne : s ≠ t) : Precedes s t := by
  by_contra hnot
  exact hne (codes_injective (Std.Trichotomous.trichotomous _ _ hnot (le_iff.1 hle)))

end Text

namespace Keyed

variable {α : Type} {entries others : Keyed α} {key : Text}

def IsSorted (entries : Keyed α) : Prop := entries.Pairwise fun a b => Text.Precedes a.1 b.1

theorem sorted_perm (entries : Keyed α) : entries.sorted.Perm entries := List.mergeSort_perm _ _

theorem nodup_sorted (h : entries.keys.Nodup) : entries.sorted.keys.Nodup :=
  ((sorted_perm entries).map Prod.fst).nodup_iff.2 h

theorem isSorted_sorted (h : entries.keys.Nodup) : IsSorted entries.sorted := by
  have hle : entries.sorted.Pairwise fun a b => Text.le a.1 b.1 = true := by
    apply List.pairwise_mergeSort
    · exact fun _ _ _ => Text.le_trans
    · exact fun a b => Text.le_total a.1 b.1
  have hne : entries.sorted.Pairwise fun a b => a.1 ≠ b.1 := List.pairwise_map.1 (nodup_sorted h)
  exact hle.imp₂ (fun a b => Text.precedes_of_le_of_ne) hne

theorem IsSorted.nodup (h : IsSorted entries) : entries.keys.Nodup :=
  List.pairwise_map.2 (h.imp Text.Precedes.ne)

theorem get?_sorted (h : entries.keys.Nodup) : entries.sorted.get? key = entries.get? key := by
  ext value
  rw [get?_eq_some_iff (nodup_sorted h), get?_eq_some_iff h]
  exact (sorted_perm entries).mem_iff

theorem IsSorted.eq_of_perm (h : IsSorted entries) (h' : IsSorted others)
    (hperm : entries.Perm others) : entries = others :=
  hperm.eq_of_pairwise (fun _ _ _ _ hab hba => absurd hba hab.asymm) h h'

theorem IsSorted.sorted_eq (h : IsSorted entries) : entries.sorted = entries :=
  (isSorted_sorted h.nodup).eq_of_perm h (sorted_perm entries)

theorem IsSorted.eq_of_get?_eq (h : IsSorted entries) (h' : IsSorted others)
    (hget : ∀ key, entries.get? key = others.get? key) : entries = others := by
  have hmem (entry : Text × α) : entry ∈ entries ↔ entry ∈ others := by
    rw [← get?_eq_some_iff h.nodup, ← get?_eq_some_iff h'.nodup, hget]
  have hperm : entries.Perm others :=
    (List.perm_ext_iff_of_nodup (List.Nodup.of_map _ h.nodup) (List.Nodup.of_map _ h'.nodup)).2 hmem
  exact h.eq_of_perm h' hperm

end Keyed

end NodePanel
