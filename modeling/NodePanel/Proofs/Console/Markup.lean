import NodePanel.Command.Run

/-!
Markup that a console takes. Escaped text has no tags in it, whatever stands before it and behind it,
as long as what stands behind it does not begin with a tag or end one. So the lines that a command
prints about an error or a warning have no tags but their own, and these fit together.
-/
namespace NodePanel

namespace Markup

/-- A text that neither begins with a tag nor ends one that was begun before it. -/
structure IsInert (t : Text) : Prop where
  leadsToTag_eq : leadsToTag t = false
  closes_eq : closes t = false

private theorem isInert_nil : IsInert [] := ⟨rfl, rfl⟩

@[simp] theorem leadsToTag_backslash (t : Text) : leadsToTag (backslash :: t) = leadsToTag t := by
  simp [leadsToTag]

theorem leadsToTag_cons {c : CodePoint} (h : c ≠ backslash) (t : Text) :
    leadsToTag (c :: t) = isTag (c :: t) := by
  simp [leadsToTag, h]

theorem isTag_cons_of_ne {c : CodePoint} (h : c ≠ opening) (t : Text) : isTag (c :: t) = false := by
  cases t <;> simp [isTag, h]

private theorem leadsToTag_of_isTag {t : Text} (h : isTag t = true) : leadsToTag t = true := by
  cases t with
  | nil => contradiction
  | cons c t =>
    by_cases hc : c = backslash
    · subst hc
      rw [isTag_cons_of_ne (by decide)] at h
      contradiction
    · rwa [leadsToTag_cons hc]

theorem closes_cons {c : CodePoint} (h : c ≠ opening ∧ c ≠ closing) (t : Text) :
    closes (c :: t) = closes t := by
  simp [closes, h.1, h.2]

theorem ne_of_startsTag {c : CodePoint} (h : startsTag c = true) :
    c ≠ opening ∧ c ≠ closing ∧ c ≠ backslash := by
  refine ⟨?_, ?_, ?_⟩ <;>
  · rintro rfl
    exact absurd h (by decide)

/-! Escaping -/

theorem escapeTags_go (t done : Text) : escapeTags.go t done = done.reverse ++ escapeTags t := by
  unfold escapeTags
  induction t generalizing done with
  | nil => simp [escapeTags.go]
  | cons c t ih =>
    rw [escapeTags.go, escapeTags.go, ih, ih (c :: if leadsToTag (c :: t) then [backslash] else [])]
    split <;> simp

theorem escapeTags_cons_of_tag {c : CodePoint} {t : Text} (h : leadsToTag (c :: t) = true) :
    escapeTags (c :: t) = backslash :: c :: escapeTags t := by
  unfold escapeTags
  rw [escapeTags.go, if_pos h, escapeTags_go]
  rfl

theorem escapeTags_cons_of_no_tag {c : CodePoint} {t : Text} (h : leadsToTag (c :: t) = false) :
    escapeTags (c :: t) = c :: escapeTags t := by
  unfold escapeTags
  rw [escapeTags.go, if_neg (by simp [h]), escapeTags_go]
  rfl

theorem closes_escapeTags_append {rest : Text} (h : closes rest = false) (t : Text) :
    closes (escapeTags t ++ rest) = closes t := by
  induction t with
  | nil => exact h
  | cons c t ih =>
    have hcons : closes (c :: (escapeTags t ++ rest)) = closes (c :: t) := by
      by_cases hc : c = opening ∨ c = closing
      · simp [closes, hc]
      · rw [not_or] at hc
        rw [closes_cons hc, closes_cons hc, ih]
    cases htag : leadsToTag (c :: t) with
    | true =>
      rw [escapeTags_cons_of_tag htag, List.cons_append, List.cons_append,
        closes_cons (by decide), hcons]
    | false => rw [escapeTags_cons_of_no_tag htag, List.cons_append, hcons]

theorem escapeTags_cons_of_startsTag {c : CodePoint} (h : startsTag c = true) (t : Text) :
    escapeTags (c :: t) = c :: escapeTags t := by
  obtain ⟨hopening, -, hbackslash⟩ := ne_of_startsTag h
  exact escapeTags_cons_of_no_tag (by rw [leadsToTag_cons hbackslash, isTag_cons_of_ne hopening])

private theorem leadsToTag_escapeTags_append {rest : Text} (h : closes rest = false) {t : Text}
    (htag : leadsToTag t = true) : leadsToTag (escapeTags t ++ rest) = true := by
  induction t with
  | nil => contradiction
  | cons c t ih =>
    rw [escapeTags_cons_of_tag htag, List.cons_append, List.cons_append, leadsToTag_backslash]
    by_cases hc : c = backslash
    · subst hc
      rw [leadsToTag_backslash] at htag ⊢
      exact ih htag
    · rw [leadsToTag_cons hc] at htag ⊢
      cases t with
      | nil => simp [isTag] at htag
      | cons first t =>
        simp only [isTag, Bool.and_eq_true, decide_eq_true_eq] at htag
        obtain ⟨⟨hopening, hfirst⟩, hcloses⟩ := htag
        rw [escapeTags_cons_of_startsTag hfirst, List.cons_append]
        simp [isTag, hopening, hfirst, closes_escapeTags_append h, hcloses]

private theorem leadsToTag_escapeTags_append_eq_false {rest : Text} (h : IsInert rest) {t : Text}
    (htag : leadsToTag t = false) : leadsToTag (escapeTags t ++ rest) = false := by
  induction t with
  | nil => exact h.leadsToTag_eq
  | cons c t ih =>
    rw [escapeTags_cons_of_no_tag htag, List.cons_append]
    by_cases hc : c = backslash
    · subst hc
      rw [leadsToTag_backslash] at htag ⊢
      exact ih htag
    rw [leadsToTag_cons hc] at htag ⊢
    by_cases hopening : c = opening
    · -- The bracket opens no tag: what follows it cannot begin one, or nothing closes it.
      subst hopening
      have hfirst (first : CodePoint) (u : Text) (hcloses : closes u = false ∨ startsTag first = false) :
          isTag (opening :: first :: u) = false := by
        rcases hcloses with h | h <;> simp [isTag, h]
      cases t with
      | nil =>
        cases rest with
        | nil => rfl
        | cons first u =>
          refine hfirst first u ?_
          cases hstarts : startsTag first with
          | false => exact .inr rfl
          | true =>
            obtain ⟨hopening, hclosing, -⟩ := ne_of_startsTag hstarts
            exact .inl (closes_cons ⟨hopening, hclosing⟩ u ▸ h.closes_eq)
      | cons first t =>
        cases hstarts : startsTag first with
        | true =>
          rw [escapeTags_cons_of_startsTag hstarts, List.cons_append]
          refine hfirst _ _ (.inl ?_)
          rw [closes_escapeTags_append h.closes_eq]
          simpa [isTag, hstarts] using htag
        | false =>
          cases hlead : leadsToTag (first :: t) with
          | true =>
            rw [escapeTags_cons_of_tag hlead, List.cons_append]
            exact hfirst _ _ (.inr rfl)
          | false =>
            rw [escapeTags_cons_of_no_tag hlead, List.cons_append]
            exact hfirst _ _ (.inr hstarts)
    · exact isTag_cons_of_ne hopening _

/-! Tags -/

theorem tags_go_of_no_tag {c : CodePoint} {t : Text} (h : leadsToTag (c :: t) = false) :
    tags.go (c :: t) none = tags.go t none := by
  have htag : isTag (c :: t) = false := by
    cases htag : isTag (c :: t) with
    | false => rfl
    | true => rw [leadsToTag_of_isTag htag] at h; contradiction
  rw [tags.go.eq_def]
  simp [htag, h]

private theorem tags_go_backslash {c : CodePoint} {t : Text} (h : leadsToTag (c :: t) = true) :
    tags.go (backslash :: c :: t) none = tags.go t none := by
  have htag : isTag (backslash :: c :: t) = false := isTag_cons_of_ne (by decide) _
  have hlead : leadsToTag (backslash :: c :: t) = true := by rwa [leadsToTag_backslash]
  rw [tags.go, if_neg (by simp [htag]), if_pos hlead]

theorem tags_go_escapeTags {rest : Text} (h : IsInert rest) (t : Text) :
    tags.go (escapeTags t ++ rest) none = tags.go rest none := by
  induction t with
  | nil => rfl
  | cons c t ih =>
    cases htag : leadsToTag (c :: t) with
    | true =>
      have hlead := leadsToTag_escapeTags_append h.closes_eq htag
      rw [escapeTags_cons_of_tag htag, List.cons_append, List.cons_append,
        leadsToTag_backslash] at hlead
      rw [escapeTags_cons_of_tag htag, List.cons_append, List.cons_append,
        tags_go_backslash hlead, ih]
    | false =>
      have hlead := leadsToTag_escapeTags_append_eq_false h htag
      rw [escapeTags_cons_of_no_tag htag, List.cons_append] at hlead
      rw [escapeTags_cons_of_no_tag htag, List.cons_append, tags_go_of_no_tag hlead, ih]

/-- Escaped text has no tags and takes none from what stands behind it. -/
theorem tags_go_escape {rest : Text} (h : IsInert rest) (t : Text) :
    tags.go (escape t ++ rest) none = tags.go rest none := by
  have hpaired : IsInert (backslash :: rest) :=
    ⟨(leadsToTag_backslash rest).trans h.leadsToTag_eq,
      (closes_cons (by decide) rest).trans h.closes_eq⟩
  unfold escape pairLast
  split
  next => exact tags_go_escapeTags h t
  next =>
    split
    · rw [List.append_assoc, List.singleton_append, tags_go_escapeTags hpaired,
        tags_go_of_no_tag hpaired.leadsToTag_eq]
    · exact tags_go_escapeTags h t

@[simp] theorem tags_go_escape_end (t : Text) : tags.go (escape t) none = [] := by
  have h := tags_go_escape isInert_nil t
  rwa [List.append_nil] at h

theorem tags_go_plain {t : Text} (h : ∀ c ∈ t, c ≠ opening ∧ c ≠ backslash) (rest : Text) :
    tags.go (t ++ rest) none = tags.go rest none := by
  induction t with
  | nil => rfl
  | cons c t ih =>
    obtain ⟨⟨hopening, hbackslash⟩, h⟩ := List.forall_mem_cons.1 h
    have hlead : leadsToTag (c :: (t ++ rest)) = false := by
      rw [leadsToTag_cons hbackslash, isTag_cons_of_ne hopening]
    rw [List.cons_append, tags_go_of_no_tag hlead, ih h]

private theorem tags_go_name {t : Text} (h : closing ∉ t) (taken rest : Text) :
    tags.go (t ++ closing :: rest) (some taken) = (taken.reverse ++ t) :: tags.go rest none := by
  induction t generalizing taken with
  | nil => simp [tags.go]
  | cons c t ih =>
    rw [List.mem_cons, not_or] at h
    rw [List.cons_append, tags.go, if_neg (Ne.symm h.1), ih h.2]
    simp

theorem tags_go_tag {c : CodePoint} {t : Text} (hc : startsTag c = true)
    (h : ∀ d ∈ t, d ≠ opening ∧ d ≠ closing) (rest : Text) :
    tags.go (opening :: c :: (t ++ closing :: rest)) none = (c :: t) :: tags.go rest none := by
  have hcloses : closes (t ++ closing :: rest) = true := by
    clear hc
    induction t with
    | nil => simp [closes]
    | cons d t ih =>
      obtain ⟨hd, h⟩ := List.forall_mem_cons.1 h
      rw [List.cons_append, closes_cons hd, ih h]
  have htag : isTag (opening :: c :: (t ++ closing :: rest)) = true := by simp [isTag, hc, hcloses]
  have hclosing : closing ∉ c :: t := by
    rw [List.mem_cons, not_or]
    exact ⟨(ne_of_startsTag hc).2.1.symm, fun hmem => (h _ hmem).2 rfl⟩
  rw [tags.go, if_pos htag, ← List.cons_append]
  exact tags_go_name hclosing [] rest

structure IsStyle (style : String) (c : CodePoint) (t : Text) : Prop where
  eq : Text.ofString style = c :: t
  startsTag_eq : startsTag c = true
  ne : ∀ d ∈ c :: t, d ≠ opening ∧ d ≠ closing

theorem tags_go_styled {style : String} {c : CodePoint} {name shown : Text}
    (h : IsStyle style c name) (rest : Text)
    (hshown : ∀ tail, tags.go (shown ++ opening :: CodePoint.ofChar '/' :: tail) none =
      tags.go (opening :: CodePoint.ofChar '/' :: tail) none) :
    tags.go (styled style shown ++ rest) none =
      (c :: name) :: (CodePoint.ofChar '/' :: c :: name) :: tags.go rest none := by
  have hstyled : styled style shown ++ rest = opening :: c :: (name ++ closing ::
      (shown ++ opening :: CodePoint.ofChar '/' :: (c :: name ++ closing :: rest))) := by
    simp only [styled, h.eq, List.append_assoc, List.cons_append]
    rfl
  rw [hstyled, tags_go_tag h.startsTag_eq fun d hd => h.ne d (List.mem_cons_of_mem _ hd), hshown,
    tags_go_tag (by decide) h.ne]

theorem tags_of_not_mem {t : Text} (h : opening ∉ t) : tags t = [] := by
  unfold tags
  induction t with
  | nil => rfl
  | cons c t ih =>
    have hlead : leadsToTag (c :: t) = false := by
      unfold leadsToTag
      cases hdrop : (c :: t).dropWhile (· = backslash) with
      | nil => rfl
      | cons d u =>
        have hmem : d ∈ c :: t := (List.dropWhile_suffix _).subset (hdrop ▸ List.mem_cons_self)
        exact isTag_cons_of_ne (fun hd => h (hd ▸ hmem)) u
    rw [tags_go_of_no_tag hlead]
    exact ih fun hmem => h (List.mem_cons_of_mem _ hmem)

end Markup

namespace Console

variable (console : Console)

theorem takesMarkup_of_not_mem {t : Text} (h : Markup.opening ∉ t) :
    console.takesMarkup t = true := by
  simp [takesMarkup, Markup.tags_of_not_mem h, takesTags]

private theorem takesMarkup_of_style {t name : Text}
    (htags : Markup.tags t = [name, CodePoint.ofChar '/' :: name])
    (hname : Tag.ofText name = ⟨name, none⟩) (hopen : Tag.closed? ⟨name, none⟩ = none)
    (hclose : Tag.closed? (Tag.ofText (CodePoint.ofChar '/' :: name)) = some name) :
    console.takesMarkup t = true := by
  have htakes : console.takesTags [] [⟨name, none⟩, Tag.ofText (CodePoint.ofChar '/' :: name)] =
      true := by
    simp [takesTags, hopen, hclose, take?, takesClosed]
  simp [takesMarkup, htags, hname, htakes]

end Console

namespace Invocation

open Markup

theorem isStyle_yellow : IsStyle "yellow" 'y' (Text.ofString "ellow") := ⟨rfl, rfl, by decide⟩

@[simp] theorem tags_warningMarkup (warning : RuleWarning) :
    tags (warningMarkup warning) = [Text.ofString "yellow", Text.ofString "/yellow"] := by
  have hshown (tail : Text) : tags.go (Text.ofString "Local rule list ignored (" ++
      escape warning.path.toText ++ Text.ofString "):" ++
        opening :: CodePoint.ofChar '/' :: tail) none =
      tags.go (opening :: CodePoint.ofChar '/' :: tail) none := by
    have hinert : IsInert (Text.ofString "):" ++ opening :: CodePoint.ofChar '/' :: tail) :=
      ⟨rfl, rfl⟩
    rw [List.append_assoc, List.append_assoc, tags_go_plain (by decide), tags_go_escape hinert,
      tags_go_plain (by decide)]
  have htags := tags_go_styled isStyle_yellow (CodePoint.ofChar ' ' :: escape warning.reason) hshown
  have hreason : tags.go (CodePoint.ofChar ' ' :: escape warning.reason) none = [] := by
    have hlead : leadsToTag (CodePoint.ofChar ' ' :: escape warning.reason) = false := by
      rw [leadsToTag_cons (by decide), isTag_cons_of_ne (by decide)]
    rw [tags_go_of_no_tag hlead, tags_go_escape_end]
  rw [hreason] at htags
  exact htags

theorem takesMarkup_of_yellow (console : Console) {t : Text}
    (h : tags t = [Text.ofString "yellow", Text.ofString "/yellow"]) : console.takesMarkup t = true :=
  console.takesMarkup_of_style h (by decide) (by decide) (by decide)

/-- Whatever the rules could not be read for, the console takes the line about it. -/
@[simp] theorem takesMarkup_warningMarkup (console : Console) (warning : RuleWarning) :
    console.takesMarkup (warningMarkup warning) = true :=
  takesMarkup_of_yellow console (tags_warningMarkup warning)

end Invocation

@[simp] theorem Checkup.takesMarkup_advice (console : Console) :
    console.takesMarkup advice = true := by
  have hshown (tail : Text) : Markup.tags.go (Text.ofString "Note:" ++
        Markup.opening :: CodePoint.ofChar '/' :: tail) none =
      Markup.tags.go (Markup.opening :: CodePoint.ofChar '/' :: tail) none :=
    Markup.tags_go_plain (by decide) _
  have htags := Markup.tags_go_styled Invocation.isStyle_yellow
    (Text.ofString " check SAKURA_API_HOST / SAKURA_KEY / SAKURA_NODE_ID.") hshown
  have hend := Markup.tags_of_not_mem
    (show Markup.opening ∉ Text.ofString " check SAKURA_API_HOST / SAKURA_KEY / SAKURA_NODE_ID." by
      decide)
  refine Invocation.takesMarkup_of_yellow console ?_
  unfold Markup.tags at hend ⊢
  rw [hend] at htags
  rw [advice, List.append_assoc, Markup.tags_go_plain (by decide)]
  exact htags

end NodePanel
