import NodePanel.Proofs.Files.Tree
import NodePanel.Proofs.Text.Basic
import NodePanel.Proofs.Text.Split

/-!
Paths and their texts. A path that was made of a text is made again of its own text, and but for
slashes and points it holds what the text held. So whether a file can have that name is a matter of
the code points of the text.
-/
namespace NodePanel

def CodePoint.IsStray (c : CodePoint) : Prop := c.isSurrogate = true ∧ Path.isOctetPoint c = false

instance : DecidablePred CodePoint.IsStray := fun c =>
  inferInstanceAs (Decidable (c.isSurrogate = true ∧ Path.isOctetPoint c = false))

namespace Path

open Text

def IsNameable (t : Text) : Prop := ∀ c ∈ t, c ≠ zero ∧ ¬ c.IsStray

instance : DecidablePred IsNameable := fun t => inferInstanceAs (Decidable (∀ c ∈ t, _))

theorem join_slash (parts : List Text) : Text.join "/" parts = Text.join [separator] parts := rfl

section Mem

variable {c : CodePoint} (hslash : c ≠ separator) (hpoint : c ≠ CodePoint.ofChar '.')

include hslash hpoint

theorem mem_toText {p : Path} : c ∈ p.toText ↔ ∃ part ∈ p.parts, c ∈ part := by
  obtain ⟨root, parts⟩ := p
  have hroot : c ∉ rootText root := by
    change c ≠ CodePoint.ofChar '/' at hslash
    cases root <;> simp [rootText, ofString, hslash]
  cases parts with
  | nil => cases root <;> simp_all [toText, ofString, Text.join]
  | cons part parts =>
    rw [Tree.toText_of_parts (List.cons_ne_nil part parts), List.mem_append, join_slash,
      mem_join_iff hslash]
    simp [hroot]

@[simp] theorem mem_toText_ofText {t : Text} : c ∈ (ofText t).toText ↔ c ∈ t := by
  have hpieces : c ∈ t ↔ ∃ piece ∈ splitOn separator t, c ∈ piece := by
    rw [← mem_join_iff hslash, join_splitOn]
  rw [mem_toText hslash hpoint, hpieces]
  apply exists_congr
  intro piece
  have hpart (hc : c ∈ piece) : isPart piece = true := by
    have hne : piece ≠ ofString "." := by
      rintro rfl
      simp_all [ofString]
    simp [isPart, hne, List.ne_nil_of_mem hc]
  show piece ∈ (splitOn separator t).filter isPart ∧ c ∈ piece ↔ _
  rw [List.mem_filter]
  exact ⟨fun h => ⟨h.1.1, h.2⟩, fun h => ⟨⟨h.1, hpart h.2⟩, h.2⟩⟩

end Mem

private theorem zero_mem_toText_ofText {t : Text} : zero ∈ (ofText t).toText ↔ zero ∈ t :=
  mem_toText_ofText (by decide) (by decide)

theorem mem_toText_ofText_of_isStray {t : Text} {c : CodePoint} (h : c.IsStray) :
    c ∈ (ofText t).toText ↔ c ∈ t := by
  apply mem_toText_ofText
  · rintro rfl
    exact absurd h (by decide)
  · rintro rfl
    exact absurd h (by decide)

theorem nameFault?_ofText_eq_none_iff {t : Text} :
    nameFault? (ofText t).toText = none ↔ ∀ c ∈ t, ¬ c.IsStray := by
  have hstray (c : CodePoint) : (c.isSurrogate && !isOctetPoint c) = false ↔ ¬ c.IsStray := by
    simp [CodePoint.IsStray]
  unfold nameFault?
  rw [Utf8.find?_eq_none_iff]
  simp only [hstray]
  constructor
  · intro h c hc hcontra
    exact h c ((mem_toText_ofText_of_isStray hcontra).2 hc) hcontra
  · intro h c hc hcontra
    exact h c ((mem_toText_ofText_of_isStray hcontra).1 hc) hcontra

theorem pathError?_ofText {t : Text} :
    Tree.pathError? (ofText t) =
      match nameFault? (ofText t).toText with
      | some fault => some (.encoding fault)
      | none => if zero ∈ t then some .zeroInPath else none := by
  unfold Tree.pathError?
  cases nameFault? (ofText t).toText with
  | some fault => rfl
  | none => simp [zero_mem_toText_ofText]

theorem pathError?_ofText_eq_none_iff {t : Text} :
    Tree.pathError? (ofText t) = none ↔ IsNameable t := by
  rw [pathError?_ofText]
  have hfault := nameFault?_ofText_eq_none_iff (t := t)
  cases hname : nameFault? (ofText t).toText with
  | some fault =>
    rw [hname] at hfault
    simp only [reduceCtorEq, false_iff] at hfault ⊢
    exact fun h => hfault fun c hc => (h c hc).2
  | none =>
    have hstray := hfault.1 hname
    simp only [ite_eq_right_iff, reduceCtorEq, imp_false]
    constructor
    · intro hzero c hc
      exact ⟨fun h => hzero (h ▸ hc), hstray c hc⟩
    · intro h hzero
      exact (h zero hzero).1 rfl

/-! The text of a path read again -/

def IsNormal (p : Path) : Prop := ∀ part ∈ p.parts, isPart part = true ∧ separator ∉ part

theorem isNormal_ofText (t : Text) : IsNormal (ofText t) := by
  intro part hpart
  have hmem := List.mem_filter.1 hpart
  exact ⟨hmem.2, fun hslash => (mem_of_mem_splitOn hmem.1 hslash).2 rfl⟩

@[simp] theorem splitOn_separator (t : Text) :
    splitOn separator (separator :: t) = [] :: splitOn separator t :=
  splitOn_append_cons [] t

private theorem filter_splitOn_rootText (root : PathRoot) (t : Text) :
    (splitOn separator (rootText root ++ t)).filter isPart = (splitOn separator t).filter isPart := by
  cases root with
  | relative => rfl
  | slash =>
    show (splitOn separator (separator :: t)).filter isPart = _
    rw [splitOn_separator]
    rfl
  | doubleSlash =>
    show (splitOn separator (separator :: separator :: t)).filter isPart = _
    rw [splitOn_separator, splitOn_separator]
    rfl

private theorem rootOf_rootText (root : PathRoot) {t : Text} (h : t.head? ≠ some separator) :
    rootOf (rootText root ++ t) = root := by
  have hroot : ∀ c ∈ rootText root, decide (c = separator) = true := by
    cases root <;> simp [rootText, ofString, separator]
  have hhead : t.head?.any (fun c => decide (c = separator)) = false := by
    rw [Option.any_eq_false]
    intro c hc
    apply decide_eq_false
    rintro rfl
    exact h hc
  unfold rootOf
  rw [takeWhile_append hroot hhead]
  cases root <;> rfl

theorem ofText_toText {p : Path} (h : IsNormal p) : ofText p.toText = p := by
  obtain ⟨root, parts⟩ := p
  cases parts with
  | nil => cases root <;> rfl
  | cons part parts =>
    have hne : part :: parts ≠ [] := List.cons_ne_nil part parts
    have hhead : (Text.join [separator] (part :: parts)).head? ≠ some separator := by
      obtain ⟨hpart, hslash⟩ := h part List.mem_cons_self
      cases part with
      | nil => contradiction
      | cons c part =>
        rintro ⟨⟩
        exact hslash List.mem_cons_self
    rw [Tree.toText_of_parts hne, join_slash]
    unfold ofText
    rw [rootOf_rootText root hhead, filter_splitOn_rootText,
      splitOn_join (fun piece hpiece => (h piece hpiece).2) hne,
      List.filter_eq_self.2 fun piece hpiece => (h piece hpiece).1]

end Path

end NodePanel
