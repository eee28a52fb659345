import NodePanel.Proofs.EnvFile.Store

/-!
Variables that are written and read again. A dictionary is read back from its text exactly if each of
its variables is clean. What is read of any text at all has clean keys and values of one line, so a
key that is not clean, or a value of several lines, cannot be made good by other variables.
-/
namespace NodePanel.EnvFile

variable {t l : Text} {entry : Text × Text} {entries : Keyed Text}

private theorem isCleanKey_of_ofLine? (hl : IsOneLine l) (h : ofLine? l = some entry) :
    IsCleanKey entry.1 := by
  unfold ofLine? at h
  dsimp only at h
  split at h
  next => contradiction
  next hcomment =>
    split at h
    next => contradiction
    next before after hcut =>
      split at h
      next => contradiction
      next hempty =>
        cases h
        obtain ⟨hstrip, hsign⟩ := Text.cut?_eq_some_iff.1 hcut
        have hne : Text.strip before ≠ [] := fun hnil => hempty (List.isEmpty_iff.2 hnil)
        have hbefore : before ≠ [] := fun hnil => hne (congrArg Text.strip hnil)
        have hsubset : before ⊆ l := fun c hc =>
          Text.trim_subset (hstrip ▸ List.mem_append_left _ hc)
        -- The line has no blank in front, so the key starts where the line does.
        have hstart : (Text.strip l).head? = before.head? := by
          rw [hstrip, List.head?_append_of_ne_nil _ hbefore]
        have hblank : before.head?.any CodePoint.isBlank = false :=
          (Option.any_eq_false _ _).2 fun c hc => Text.head?_trim (hstart.trans hc)
        have hkey : (Text.strip before).head? = (Text.strip l).head? :=
          (Text.head?_trim_eq hblank).trans hstart.symm
        exact {
          ne_nil := hne
          blank := Text.isTrimmed_trim
          not_sign := fun hmem => hsign (Text.trim_subset hmem)
          not_comment := hkey ▸ Bool.eq_false_iff.2 hcomment
          oneLine := fun c hc => hl c (hsubset (Text.trim_subset hc)) }

theorem isCleanKey_of_mem_ofText (h : entry ∈ ofText t) :
    IsCleanKey entry.1 ∧ IsOneLine entry.2 := by
  obtain ⟨l, hl, hentry⟩ := List.mem_filterMap.1 (Keyed.mem_of_mem_collect h)
  have hline := Text.isLineOf_splitLines hl
  exact ⟨isCleanKey_of_ofLine? (fun c hc => (hline c hc).2) hentry,
    fun c hc => ((readFrom_of_ofLine? hline hentry).value_line c hc).2⟩

private theorem isClean_of_read_back (hnodup : entries.keys.Nodup)
    (h : ∀ key, (ofText (toText entries)).get? key = entries.get? key) :
    ∀ entry ∈ entries, IsClean entry := by
  have hmem (entry : Text × Text) : entry ∈ ofText (toText entries) ↔ entry ∈ entries := by
    have hread : (ofText (toText entries)).keys.Nodup := Keyed.nodup_collect
    rw [← Keyed.get?_eq_some_iff hread, ← Keyed.get?_eq_some_iff hnodup, h]
  have hkeys : ∀ entry ∈ entries, IsCleanKey entry.1 ∧ IsOneLine entry.2 := fun entry hentry =>
    isCleanKey_of_mem_ofText ((hmem entry).2 hentry)
  intro entry hentry
  have hread := (hmem entry).2 hentry
  rw [ofText_toText_of_isCleanKey hnodup hkeys] at hread
  obtain ⟨written, hwritten, heq⟩ := List.mem_map.1 hread
  -- No other variable has the key, so it is this one whose value was read.
  have hsame : written = entry :=
    List.inj_on_of_nodup_map hnodup (mem_sorted.1 hwritten) hentry (Prod.ext_iff.1 heq).1
  subst hsame
  obtain ⟨hblank, hdouble, hsingle⟩ := unquoteEnds_eq_self_iff.1 (Prod.ext_iff.1 heq).2
  exact ⟨(hkeys _ hentry).1, hblank, hdouble, hsingle, (hkeys _ hentry).2⟩

def given (entries : Keyed Text) : Keyed (Option Text) :=
  entries.map fun entry => (entry.1, some entry.2)

@[simp] theorem assigned_given (entries : Keyed Text) : assigned (given entries) = entries := by
  unfold assigned given
  rw [List.filterMap_map]
  exact List.filterMap_some

/-- The text that is made of a dictionary, where no file is yet, is read as that dictionary exactly if
every key and every value is clean. Of any text the keys that are read are clean, and the values have
one line. -/
theorem read_back_iff (hnodup : entries.keys.Nodup) :
    (∀ {files made : Tree} {p : Path}, files.ensureDirectory p.parent = (made, .ok ()) →
      made.IsVacant p → update files p (given entries) = replaceText made p (toText entries)) ∧
    ((∀ key, (ofText (toText entries)).get? key = entries.get? key) ↔
      ∀ entry ∈ entries, IsCleanKey entry.1 ∧ IsCleanValue entry.2) ∧
    ∀ t, ∀ entry ∈ ofText t, IsCleanKey entry.1 ∧ IsOneLine entry.2 := by
  refine ⟨fun hmade hvacant => ?_, ⟨fun h entry hentry => ?_, fun h key => ?_⟩,
    fun t entry => isCleanKey_of_mem_ofText⟩
  · have hall : Keyed.putAll [] entries = entries := Keyed.collect_of_nodup hnodup
    rw [update_new hmade hvacant, assigned_given, hall]
  · obtain ⟨hkey, hvalue⟩ := isClean_of_read_back hnodup h entry hentry
    exact ⟨hkey, hvalue⟩
  · have hclean : ∀ entry ∈ entries, IsClean entry := fun entry hentry =>
      ⟨(h entry hentry).1, (h entry hentry).2⟩
    rw [ofText_toText hnodup hclean, Keyed.get?_sorted hnodup]

/-- Signs, quotation marks and number signs inside a value are read back. A line break in a value is
not, even if the line that it makes binds another variable to what that has anyway. -/
theorem read_back_of_two_files :
    (∀ key, (ofText (toText [("B", "x = \"y\" # 'z' !"), ("A", "")])).get? key =
      Keyed.get? [(Text.ofString "B", Text.ofString "x = \"y\" # 'z' !"), ("A", "")] key) ∧
    ¬ ∀ key, (ofText (toText [("A", "x\nB=y"), ("B", "y")])).get? key =
      Keyed.get? [(Text.ofString "A", Text.ofString "x\nB=y"), ("B", "y")] key := by
  constructor
  · have hnodup :
        (Keyed.keys [(Text.ofString "B", Text.ofString "x = \"y\" # 'z' !"), ("A", "")]).Nodup := by
      decide
    obtain ⟨-, hread, -⟩ := read_back_iff hnodup
    exact hread.2 (by decide)
  · have hnodup : (Keyed.keys [(Text.ofString "A", Text.ofString "x\nB=y"), ("B", "y")]).Nodup := by
      decide
    obtain ⟨-, hread, -⟩ := read_back_iff hnodup
    rw [hread]
    decide

end NodePanel.EnvFile
