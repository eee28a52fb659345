import NodePanel.Text.Blank

/-!
Parts of a text: what is left when its ends are dropped, and the two sides of a cut.
-/
namespace NodePanel.Text

variable {p : CodePoint → Bool} {t : Text}

/-- The text has only code points of ASCII, and among them no zero. -/
def IsPlainAscii (t : Text) : Prop := ∀ c ∈ t, c.val ≠ 0 ∧ c.val < 0x80

instance : DecidablePred IsPlainAscii := fun t =>
  inferInstanceAs (Decidable (∀ c ∈ t, c.val ≠ 0 ∧ c.val < 0x80))

theorem IsPlainAscii.append {s t : Text} (hs : IsPlainAscii s) (ht : IsPlainAscii t) :
    IsPlainAscii (s ++ t) := fun c hc => (List.mem_append.1 hc).elim (hs c) (ht c)

/-! Up to where a property ends -/

theorem takeWhile_append {s rest : Text} (hs : ∀ c ∈ s, p c = true)
    (hrest : rest.head?.any p = false) : (s ++ rest).takeWhile p = s := by
  rw [List.takeWhile_append_of_pos hs]
  cases rest with
  | nil => exact List.append_nil s
  | cons c rest =>
    have hc : p c = false := hrest
    rw [List.takeWhile_cons_of_neg (by simp [hc]), List.append_nil]

theorem dropWhile_append {s rest : Text} (hs : ∀ c ∈ s, p c = true)
    (hrest : rest.head?.any p = false) : (s ++ rest).dropWhile p = rest := by
  rw [List.dropWhile_append_of_pos hs]
  cases rest with
  | nil => rfl
  | cons c rest =>
    have hc : p c = false := hrest
    exact List.dropWhile_cons_of_neg (by simp [hc])

theorem dropWhile_of_pos (h : ∀ c ∈ t, p c = true) : t.dropWhile p = [] := by
  rw [← List.append_nil t, List.dropWhile_append_of_pos h]
  rfl

theorem dropWhile_append_stop {p : CodePoint → Bool} {stop : CodePoint} {l rest : Text}
    (h : p stop = false) :
    (l ++ stop :: rest).dropWhile p = l.dropWhile p ++ stop :: rest := by
  rw [List.dropWhile_append]
  split
  next hempty =>
    rw [List.isEmpty_iff.1 hempty, List.dropWhile_cons_of_neg (by simp [h])]
    rfl
  next => rfl

theorem takeWhile_append_stop {p : CodePoint → Bool} {stop : CodePoint} {l rest : Text}
    (h : p stop = false) :
    (l ++ stop :: rest).takeWhile p = l.takeWhile p := by
  induction l with
  | nil => exact List.takeWhile_cons_of_neg (by simp [h])
  | cons c l ih =>
    rw [List.cons_append, List.takeWhile_cons, List.takeWhile_cons, ih]

theorem dropEndWhile_subset : dropEndWhile p t ⊆ t := by
  intro c hc
  have hmem := (List.dropWhile_suffix p).subset (List.mem_reverse.1 hc)
  exact List.mem_reverse.1 hmem

theorem trim_subset : trim p t ⊆ t := fun _ hc =>
  (List.dropWhile_suffix p).subset (dropEndWhile_subset hc)

theorem head?_dropWhile {c : CodePoint} (h : (t.dropWhile p).head? = some c) : p c = false := by
  induction t with
  | nil => contradiction
  | cons d t ih =>
    by_cases hd : p d
    · rw [List.dropWhile_cons_of_pos hd] at h
      exact ih h
    · rw [List.dropWhile_cons_of_neg hd] at h
      cases h
      exact Bool.eq_false_iff.2 hd

theorem dropEndWhile_prefix : dropEndWhile p t <+: t := by
  have hsuffix := List.dropWhile_suffix (l := t.reverse) p
  have hprefix := List.reverse_prefix.2 hsuffix
  rwa [List.reverse_reverse] at hprefix

theorem exists_dropEndWhile_append (p : CodePoint → Bool) (t : Text) :
    ∃ tail, dropEndWhile p t ++ tail = t ∧ ∀ c ∈ tail, p c = true := by
  refine ⟨(t.reverse.takeWhile p).reverse, ?_, fun c hc => ?_⟩
  · unfold dropEndWhile
    rw [← List.reverse_append, List.takeWhile_append_dropWhile, List.reverse_reverse]
  · exact List.all_eq_true.1 List.all_takeWhile c (List.mem_reverse.1 hc)

theorem head?_trim {c : CodePoint} (h : (trim p t).head? = some c) : p c = false := by
  obtain ⟨rest, hrest⟩ := dropEndWhile_prefix (p := p) (t := t.dropWhile p)
  apply head?_dropWhile (t := t)
  rw [← hrest]
  change (dropEndWhile p (t.dropWhile p)).head? = some c at h
  cases hleft : dropEndWhile p (t.dropWhile p) with
  | nil =>
    rw [hleft] at h
    contradiction
  | cons d left =>
    rw [hleft] at h
    exact h

@[simp] theorem dropEndWhile_eq_nil_iff : dropEndWhile p t = [] ↔ ∀ c ∈ t, p c = true := by
  constructor
  · intro h
    obtain ⟨tail, htail, hall⟩ := exists_dropEndWhile_append p t
    rw [h, List.nil_append] at htail
    exact htail ▸ hall
  · intro h
    unfold dropEndWhile
    rw [dropWhile_of_pos fun c hc => h c (List.mem_reverse.1 hc)]
    rfl

theorem dropEndWhile_append_of_pos {tail : Text} (h : ∀ c ∈ tail, p c = true) :
    dropEndWhile p (t ++ tail) = dropEndWhile p t := by
  unfold dropEndWhile
  rw [List.reverse_append, List.dropWhile_append_of_pos fun c hc => h c (List.mem_reverse.1 hc)]

theorem dropEndWhile_append_cons {before after : Text} {c : CodePoint} (hc : p c = false) :
    dropEndWhile p (before ++ c :: after) = before ++ c :: dropEndWhile p after := by
  have hreverse : (before ++ c :: after).reverse = after.reverse ++ c :: before.reverse := by simp
  unfold dropEndWhile
  rw [hreverse, dropWhile_append_stop hc]
  simp

theorem head?_trim_eq (h : t.head?.any p = false) : (trim p t).head? = t.head? := by
  cases t with
  | nil => rfl
  | cons c t =>
    have hc : p c = false := h
    have hfront : (c :: t).dropWhile p = [] ++ c :: t :=
      List.dropWhile_cons_of_neg (Bool.eq_false_iff.1 hc)
    unfold trim
    rw [hfront, dropEndWhile_append_cons hc]
    rfl

@[simp] theorem trim_dropEndWhile : trim p (dropEndWhile p t) = trim p t := by
  obtain ⟨tail, htail, hall⟩ := exists_dropEndWhile_append p t
  have hdrop : t.dropWhile p = if ((dropEndWhile p t).dropWhile p).isEmpty then tail.dropWhile p
      else (dropEndWhile p t).dropWhile p ++ tail := by
    rw [← List.dropWhile_append, htail]
  unfold trim
  rw [hdrop]
  split
  next hempty => rw [List.isEmpty_iff.1 hempty, dropWhile_of_pos hall]
  next => rw [dropEndWhile_append_of_pos hall]

structure IsTrimmed (p : CodePoint → Bool) (t : Text) : Prop where
  head : t.head?.any p = false
  last : t.getLast?.any p = false

instance (p : CodePoint → Bool) : DecidablePred (IsTrimmed p) := fun t =>
  decidable_of_iff (t.head?.any p = false ∧ t.getLast?.any p = false)
    ⟨fun h => ⟨h.1, h.2⟩, fun h => ⟨h.head, h.last⟩⟩

theorem isTrimmed_of_forall (h : ∀ c ∈ t, p c = false) : IsTrimmed p t := by
  constructor
  · exact (Option.any_eq_false _ _).2 fun c hc => h c (List.mem_of_mem_head? hc)
  · exact (Option.any_eq_false _ _).2 fun c hc => h c (List.mem_of_getLast? hc)

theorem dropEndWhile_of_last (hlast : t.getLast?.any p = false) : dropEndWhile p t = t := by
  rw [← List.head?_reverse] at hlast
  have hdrop := dropWhile_append (s := []) (fun _ hc => nomatch hc) hlast
  unfold dropEndWhile
  rw [← List.nil_append t.reverse, hdrop, List.reverse_reverse]

theorem IsTrimmed.dropEndWhile (h : IsTrimmed p t) : dropEndWhile p t = t :=
  dropEndWhile_of_last h.last

theorem trim_append {lead trail : Text} (hlead : ∀ c ∈ lead, p c = true)
    (htrail : ∀ c ∈ trail, p c = true) (h : IsTrimmed p t) : trim p (lead ++ (t ++ trail)) = t := by
  unfold trim
  rw [List.dropWhile_append_of_pos hlead]
  cases t with
  | nil =>
    rw [List.nil_append, dropWhile_of_pos htrail]
    rfl
  | cons c t =>
    have hhead : (c :: t ++ trail).dropWhile p = c :: t ++ trail :=
      dropWhile_append (s := []) (fun _ hc => nomatch hc) h.head
    rw [hhead, dropEndWhile_append_of_pos htrail, h.dropEndWhile]

theorem IsTrimmed.trim (h : IsTrimmed p t) : trim p t = t := by
  have hnone : ∀ c ∈ ([] : Text), p c = true := fun _ hc => nomatch hc
  have htrim := trim_append hnone hnone h
  rwa [List.nil_append, List.append_nil] at htrim

theorem getLast?_dropEndWhile {c : CodePoint} (h : (dropEndWhile p t).getLast? = some c) :
    p c = false := by
  unfold dropEndWhile at h
  rw [List.getLast?_reverse] at h
  exact head?_dropWhile h

theorem isTrimmed_trim : IsTrimmed p (trim p t) where
  head := (Option.any_eq_false _ _).2 fun _ hc => head?_trim hc
  last := (Option.any_eq_false _ _).2 fun _ hc => getLast?_dropEndWhile hc

theorem isTrimmed_of_trim_eq (h : trim p t = t) : IsTrimmed p t := by
  have hfront : t.dropWhile p = t := by
    have htrim : (trim p t).length ≤ (t.dropWhile p).length := dropEndWhile_prefix.length_le
    rw [h] at htrim
    exact (List.dropWhile_suffix p).eq_of_length_le htrim
  have hend : t.reverse.dropWhile p = t.reverse := by
    unfold trim dropEndWhile at h
    rwa [hfront, List.reverse_eq_iff] at h
  constructor
  · refine (Option.any_eq_false _ _).2 fun c hc => head?_dropWhile (p := p) (t := t) ?_
    rw [hfront, hc]
  · refine (Option.any_eq_false _ _).2 fun c hc => head?_dropWhile (p := p) (t := t.reverse) ?_
    rw [hend, List.head?_reverse, hc]

theorem trim_isInfix : trim p t <:+: t :=
  dropEndWhile_prefix.isInfix.trans (List.dropWhile_suffix p).isInfix

theorem cut?_eq_some_iff {c : CodePoint} {before after : Text} :
    cut? c t = some (before, after) ↔ t = before ++ c :: after ∧ c ∉ before := by
  induction t generalizing before with
  | nil => exact iff_of_false nofun fun h => by simpa using h.1
  | cons d t ih =>
    by_cases hd : d = c
    · subst hd
      have hcut : cut? d (d :: t) = some ([], t) := by simp [cut?]
      rw [hcut]
      constructor
      · intro h
        cases h
        exact ⟨rfl, List.not_mem_nil⟩
      · rintro ⟨ht, hbefore⟩
        cases before with
        | nil =>
          cases ht
          rfl
        | cons e before =>
          cases ht
          exact absurd List.mem_cons_self hbefore
    · have hcut : cut? c (d :: t) = (cut? c t).map fun cut => (d :: cut.1, cut.2) := by
        have hkeep : (d != c) = true := bne_iff_ne.2 hd
        unfold cut?
        simp only [List.dropWhile_cons, List.takeWhile_cons, hkeep, if_true]
        cases t.dropWhile (· != c) with
        | nil => rfl
        | cons e rest => rfl
      rw [hcut, Option.map_eq_some_iff]
      constructor
      · rintro ⟨⟨before', after'⟩, hfound, heq⟩
        cases heq
        obtain ⟨rfl, hbefore⟩ := ih.1 hfound
        refine ⟨rfl, fun hmem => ?_⟩
        rcases List.mem_cons.1 hmem with rfl | hmem
        · exact hd rfl
        · exact hbefore hmem
      · rintro ⟨ht, hbefore⟩
        cases before with
        | nil =>
          cases ht
          exact absurd rfl hd
        | cons e before =>
          cases ht
          refine ⟨(before, after), ih.2 ⟨rfl, ?_⟩, rfl⟩
          exact fun hmem => hbefore (List.mem_cons_of_mem _ hmem)

theorem cut?_of_not_mem {c : CodePoint} (h : c ∉ t) : cut? c t = none := by
  cases hcut : cut? c t with
  | none => rfl
  | some cut =>
    have hsplit := (cut?_eq_some_iff.1 hcut).1
    exact absurd (by simp [hsplit]) h

end NodePanel.Text
