import NodePanel.Proofs.EnvFile.Assignment

/-!
Where bindings start. After a binding, and after what is none, reading goes on at the start of a line.
So the lines of a file of assignments bind at most their own variables, each once and in order,
whatever quotation marks there are in the values: a value that runs over several lines only hides
some of them.
-/
namespace NodePanel.EnvFile

variable {t left key name value : Text}

/-- What is left of a text is nothing, or starts behind a line break. -/
def GoesOn (t left : Text) : Prop := left = [] ∨ newline :: left <:+ t

theorem GoesOn.of_suffix {u : Text} (h : GoesOn t left) (ht : t <:+ u) : GoesOn u left :=
  h.imp_right fun hleft => hleft.trans ht

private theorem goesOn_skipLine (t : Text) : GoesOn t (skipLine t) := by
  unfold GoesOn skipLine
  cases hdrop : t.dropWhile (!isNewline ·) with
  | nil => exact .inl rfl
  | cons c rest =>
    have hc : c = newline := by
      have hhead := Text.head?_dropWhile (p := (!isNewline ·)) (t := t) (by rw [hdrop]; rfl)
      simpa [isNewline, newline] using hhead
    subst hc
    exact .inr (hdrop ▸ List.dropWhile_suffix _)

private theorem goesOn_readLineEnd (h : readLineEnd t = .ok left) : GoesOn t left := by
  have hsuffix := (dropInlineBlanks_suffix (t := dropLineComment t)).trans dropLineComment_suffix
  rw [readLineEnd_eq] at h
  split at h
  next =>
    cases h
    exact .inl rfl
  next c rest hdrop =>
    split at h
    next hc =>
      cases h
      obtain rfl : c = newline := of_decide_eq_true hc
      exact .inr (hdrop ▸ hsuffix)
    next => contradiction

private theorem goesOn_readAfterKey {found : Option Text} (h : readAfterKey t = .ok (found, left)) :
    GoesOn t left := by
  have hsuffix := (readAssignment_suffix (t := dropInlineBlanks t)).trans dropInlineBlanks_suffix
  unfold readAfterKey at h
  cases hread : readAssignment (dropInlineBlanks t) with
  | error stuck =>
    rw [hread] at h
    contradiction
  | ok assigned =>
    rw [hread] at h hsuffix
    obtain ⟨after, hend, heq⟩ := Result.map_eq_ok_iff.1 h
    cases heq
    exact (goesOn_readLineEnd hend).of_suffix hsuffix

private theorem goesOn_nextBinding (t : Text) : GoesOn t (nextBinding t).2 := by
  have hstuck := readBinding_suffix (t := t)
  unfold nextBinding
  cases hread : readBinding t with
  | error stuck =>
    rw [hread] at hstuck
    exact (goesOn_skipLine stuck).of_suffix hstuck
  | ok found =>
    have hkey := (readKey_suffix (t := dropExport t)).trans dropExport_suffix
    unfold readBinding at hread
    cases hname : readKey (dropExport t) with
    | error stuck =>
      rw [hname] at hread
      contradiction
    | ok named =>
      rw [hname] at hread hkey
      obtain ⟨⟨assigned, after⟩, hafter, heq⟩ := Result.map_eq_ok_iff.1 hread
      cases heq
      exact (goesOn_readAfterKey hafter).of_suffix hkey

private theorem suffix_of_newline {l rest : Text} (hl : newline ∉ l)
    (h : newline :: left <:+ l ++ newline :: rest) : left = rest ∨ newline :: left <:+ rest := by
  obtain ⟨before, hbefore⟩ := h
  rcases List.append_eq_append_iff.1 hbefore with ⟨mid, rfl, hmid⟩ | ⟨mid, rfl, hmid⟩
  · cases mid with
    | nil => exact .inl (List.cons.inj hmid).2
    | cons c mid =>
      obtain rfl : newline = c := (List.cons.inj hmid).1
      exact absurd (List.mem_append_right before List.mem_cons_self) hl
  · cases mid with
    | nil => exact .inl (List.cons.inj hmid).2.symm
    | cons c mid => exact .inr ⟨mid, (List.cons.inj hmid).2.symm⟩

private theorem exists_lines_of_suffix {ls : List Text} (h : ∀ l ∈ ls, newline ∉ l)
    (hleft : newline :: left <:+ lines ls) : ∃ later, later <:+ ls.tail ∧ left = lines later := by
  induction ls with
  | nil => exact absurd (List.suffix_nil.1 hleft) (List.cons_ne_nil _ _)
  | cons l ls ih =>
    rw [lines_cons] at hleft
    rcases suffix_of_newline (h l List.mem_cons_self) hleft with heq | hlater
    · exact ⟨ls, List.suffix_rfl, heq⟩
    · obtain ⟨later, hsuffix, heq⟩ := ih (fun l' hl' => h l' (List.mem_cons_of_mem _ hl')) hlater
      exact ⟨later, hsuffix.trans (List.tail_suffix ls), heq⟩

/-- An assignment binds its own variable, if anything. -/
theorem name_of_nextBinding (hkey : IsKey key name) (hblank : value.head?.any isInlineBlank = false)
    {rest : Text} {b : Binding} (h : (nextBinding (line (key, value) ++ newline :: rest)).1 = some b) :
    b.1 = name := by
  have hline : line (key, value) ++ newline :: rest =
      key ++ ([] ++ CodePoint.ofChar '=' :: ([] ++ (value ++ newline :: rest))) := by simp [line]
  have hrest : (value ++ newline :: rest).head?.any isInlineBlank = false := by
    rw [head?_any_line isInlineBlank_newline]
    exact hblank
  unfold nextBinding at h
  rw [hline, readBinding_assignment hkey isGap_nil isGap_nil hrest (.inl rfl)] at h
  cases hread : readValue (value ++ newline :: rest) with
  | error stuck =>
    rw [hread] at h
    contradiction
  | ok found =>
    rw [hread] at h
    dsimp only at h
    cases hend : readLineEnd found.2 with
    | error stuck =>
      rw [hend] at h
      contradiction
    | ok after =>
      rw [hend] at h
      cases h
      rfl

structure IsAssignment (entry : Text × Text) : Prop where
  isKey : IsKey entry.1 entry.1
  blank : entry.2.head?.any isInlineBlank = false
  newline_not_mem : newline ∉ line entry

theorem IsAssignment.head?_line {entry : Text × Text} (h : IsAssignment entry) {rest : Text} :
    (line entry ++ rest).head?.any CodePoint.isBlank = false := by
  obtain ⟨c, key, hkey, hc, -⟩ := h.isKey.head
  rw [line, hkey]
  exact hc

theorem bindings_of_head? (hne : t ≠ []) (h : t.head?.any CodePoint.isBlank = false) :
    bindings t = (nextBinding t).1.toList ++ bindings (nextBinding t).2 := by
  obtain ⟨c, rest, rfl⟩ := List.exists_cons_of_ne_nil hne
  exact bindings_of_cons (List.dropWhile_cons_of_neg (Bool.eq_false_iff.1 h))

private theorem exists_rest_of_nextBinding {ls : List Text} {l : Text}
    (h : ∀ l' ∈ l :: ls, newline ∉ l') :
    ∃ n, (nextBinding (l ++ newline :: lines ls)).2 = lines (ls.drop n) := by
  rcases goesOn_nextBinding (l ++ newline :: lines ls) with hnil | hleft
  · exact ⟨ls.length, by rw [hnil, List.drop_length]; rfl⟩
  · rw [← lines_cons] at hleft ⊢
    obtain ⟨later, hlater, heq⟩ := exists_lines_of_suffix h hleft
    exact ⟨_, heq.trans (congrArg lines (List.suffix_iff_eq_drop.1 hlater))⟩

/-- Lines of assignments bind at most their own variables, each once and in order. -/
theorem names_bindings_sublist {entries : Keyed Text} (h : ∀ entry ∈ entries, IsAssignment entry) :
    ((bindings (lines (entries.map line))).map Prod.fst).Sublist entries.keys := by
  induction hlength : entries.length using Nat.strongRecOn generalizing entries with
  | _ length ih =>
    cases entries with
    | nil =>
      have hnil : bindings (lines []) = [] := bindings_nil
      exact hnil ▸ List.Sublist.slnil
    | cons entry entries =>
      have hentry := h entry List.mem_cons_self
      have hlines : ∀ l ∈ (entry :: entries).map line, newline ∉ l := by
        intro l hl
        obtain ⟨other, hother, rfl⟩ := List.mem_map.1 hl
        exact (h other hother).newline_not_mem
      obtain ⟨n, hrest⟩ := exists_rest_of_nextBinding hlines
      -- the lines that are left bind their own variables, whichever they are
      have hlater : ((bindings (lines ((entries.drop n).map line))).map Prod.fst).Sublist
          (Keyed.keys (entries.drop n)) := by
        refine ih _ ?_ (fun other hother => h other ?_) rfl
        · rw [← hlength, List.length_cons, List.length_drop]
          omega
        · exact List.mem_cons_of_mem _ (List.mem_of_mem_drop hother)
      have hkeys : (Keyed.keys (entries.drop n)).Sublist (Keyed.keys entries) :=
        (List.drop_sublist n entries).map Prod.fst
      rw [List.map_cons, lines_cons, bindings_of_head? (by simp) hentry.head?_line, hrest,
        List.map_append, ← List.map_drop]
      cases hfirst : (nextBinding (line entry ++ newline :: lines (entries.map line))).1 with
      | none => exact (hlater.trans hkeys).cons entry.1
      | some b =>
        have hname := name_of_nextBinding hentry.isKey hentry.blank hfirst
        show (b.1 :: _).Sublist (entry.1 :: Keyed.keys entries)
        rw [hname]
        exact (hlater.trans hkeys).cons_cons entry.1

theorem bindings_of_unquoted {entries : Keyed Text} (h : ∀ entry ∈ entries, IsAssignment entry)
    (hquote : ∀ entry ∈ entries, IsUnquoted entry.2) :
    bindings (lines (entries.map line)) =
      entries.map fun entry => (entry.1, some (bareValue entry.2)) := by
  induction entries with
  | nil => exact bindings_nil
  | cons entry entries ih =>
    have hentry := h entry List.mem_cons_self
    have hline : line entry ++ newline :: lines (entries.map line) =
        entry.1 ++ ([] ++ CodePoint.ofChar '=' ::
          ([] ++ (entry.2 ++ newline :: lines (entries.map line)))) := by simp [line]
    have hvalue : newline ∉ entry.2 := fun hmem =>
      hentry.newline_not_mem (List.mem_append_right _ (List.mem_cons_of_mem _ hmem))
    rw [List.map_cons, lines_cons, bindings_of_head? (by simp) hentry.head?_line, hline,
      nextBinding_bare hentry.isKey isGap_nil isGap_nil hvalue (hquote entry List.mem_cons_self)
        hentry.blank (.inl rfl) (.line _), List.map_cons]
    exact congrArg _ (ih (fun other hother => h other (List.mem_cons_of_mem _ hother))
      fun other hother => hquote other (List.mem_cons_of_mem _ hother))

end NodePanel.EnvFile
