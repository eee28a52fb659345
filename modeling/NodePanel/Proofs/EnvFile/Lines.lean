import NodePanel.EnvFile.Lines
import NodePanel.Proofs.Files.Tree
import NodePanel.Proofs.Keyed
import NodePanel.Proofs.Text.Basic
import NodePanel.Proofs.Text.Lines

/-!
The user's file after a change. If the file can be read, changing it succeeds, and the file then
reads as the text that was made: a heading and one line for each variable, none of which holds a
line break.
-/
namespace NodePanel.EnvFile

variable {t : Text} {entry : Text × Text}

/-- What is true of every variable that was read from a text. -/
structure ReadFrom (t : Text) (entry : Text × Text) : Prop where
  key_ne_nil : entry.1 ≠ []
  isBlank_head : ∀ c, entry.1.head? = some c → c.isBlank = false
  not_mem_key : CodePoint.ofChar '=' ∉ entry.1
  key_line : Text.IsLineOf t entry.1
  value_line : Text.IsLineOf t entry.2

private theorem unquoteEnds_subset : unquoteEnds t ⊆ t := fun _ hc =>
  Text.trim_subset (Text.trim_subset (Text.trim_subset hc))

theorem readFrom_of_ofLine? {l : Text} (hl : Text.IsLineOf t l) (h : ofLine? l = some entry) :
    ReadFrom t entry := by
  unfold ofLine? at h
  dsimp only at h
  split at h
  next => contradiction
  next =>
    split at h
    next => contradiction
    next key value hcut =>
      split at h
      next => contradiction
      next hempty =>
        cases h
        obtain ⟨hstrip, hkey⟩ := Text.cut?_eq_some_iff.1 hcut
        have hbefore : key ⊆ l := fun c hc =>
          Text.trim_subset (hstrip ▸ List.mem_append_left _ hc)
        have hafter : value ⊆ l := fun c hc =>
          Text.trim_subset (hstrip ▸ List.mem_append_right _ (List.mem_cons_of_mem _ hc))
        exact {
          key_ne_nil := fun hnil => hempty (List.isEmpty_iff.2 hnil)
          isBlank_head := fun c hc => Text.head?_trim hc
          not_mem_key := fun hmem => hkey (Text.trim_subset hmem)
          key_line := hl.of_subset (List.Subset.trans Text.trim_subset hbefore)
          value_line := hl.of_subset (List.Subset.trans unquoteEnds_subset hafter) }

theorem readFrom_of_mem_ofText (h : entry ∈ ofText t) : ReadFrom t entry := by
  obtain ⟨l, hl, hentry⟩ := List.mem_filterMap.1 (Keyed.mem_of_mem_collect h)
  exact readFrom_of_ofLine? (Text.isLineOf_splitLines hl) hentry

@[simp] theorem mem_sorted {entries : Keyed Text} : entry ∈ entries.sorted ↔ entry ∈ entries :=
  List.mem_mergeSort

/-! The text that is written -/

def lines (ls : List Text) : Text := ls.flatMap fun l => l ++ [CodePoint.ofChar '\n']

private theorem join_newline (l : Text) (ls : List Text) :
    Text.join "\n" (l :: ls) ++ Text.ofString "\n" = lines (l :: ls) := by
  induction ls generalizing l with
  | nil => simp [Text.join, lines, Text.ofString]
  | cons l' ls ih =>
    have hnext := ih l'
    have hbreak : Text.ofString "\n" = [CodePoint.ofChar '\n'] := rfl
    rw [hbreak] at hnext ⊢
    simp only [Text.join, lines, List.flatMap_cons, List.append_assoc] at hnext ⊢
    rw [hnext]

theorem toText_eq_lines (entries : Keyed Text) :
    toText entries = lines (heading :: entries.sorted.map line) :=
  join_newline _ _

theorem mem_line {c : CodePoint} :
    c ∈ line entry ↔ c ∈ entry.1 ∨ c = CodePoint.ofChar '=' ∨ c ∈ entry.2 := by
  unfold line
  rw [List.mem_append, List.mem_cons]

theorem mem_lines_heading {entries : Keyed Text} {c : CodePoint} :
    c ∈ lines (heading :: entries.map line) ↔
      c ∈ heading ∨ c = CodePoint.ofChar '\n' ∨ ∃ entry ∈ entries, c ∈ line entry := by
  unfold lines
  simp only [List.mem_flatMap, List.mem_append, List.mem_cons, List.mem_map, List.not_mem_nil,
    or_false]
  constructor
  · rintro ⟨l, rfl | ⟨entry, hentry, rfl⟩, hc | hc⟩
    · exact .inl hc
    · exact .inr (.inl hc)
    · exact .inr (.inr ⟨entry, hentry, hc⟩)
    · exact .inr (.inl hc)
  · rintro (hc | hc | ⟨entry, hentry, hc⟩)
    · exact ⟨heading, .inl rfl, .inl hc⟩
    · exact ⟨heading, .inl rfl, .inr hc⟩
    · exact ⟨line entry, .inr ⟨entry, hentry, rfl⟩, .inl hc⟩

theorem mem_toText {entries : Keyed Text} {c : CodePoint} :
    c ∈ toText entries ↔
      c ∈ heading ∨ c = CodePoint.ofChar '\n' ∨ ∃ entry ∈ entries, c ∈ line entry := by
  rw [toText_eq_lines, mem_lines_heading]
  simp only [mem_sorted]

/-- A text that variables are written into without harm: it has octets, and no line breaks. -/
def IsPlain (t : Text) : Prop := ∀ c ∈ t, c.isSurrogate = false ∧ c.isLineBreak = false

instance : DecidablePred IsPlain := fun t => inferInstanceAs (Decidable (∀ c ∈ t, _))

theorem isScalar_of_readText {files : Tree} {p : Path} (h : files.readText p = .ok t) :
    Utf8.IsScalar t := by
  obtain ⟨octets, text, -, hdecode, rfl⟩ := Tree.readText_eq_ok_iff.1 h
  intro c hc
  rcases Text.mem_of_unifyBreaks hc with htext | rfl
  · exact Utf8.isScalar_of_decode hdecode c htext
  · rfl

theorem isPlain_heading : IsPlain heading := by decide

theorem isScalar_toText_iff {entries : Keyed Text} :
    Utf8.IsScalar (toText entries) ↔
      ∀ entry ∈ entries, Utf8.IsScalar entry.1 ∧ Utf8.IsScalar entry.2 := by
  constructor
  · intro h entry hentry
    have hline : ∀ c ∈ line entry, c.isSurrogate = false := fun c hc =>
      h c (mem_toText.2 (.inr (.inr ⟨entry, hentry, hc⟩)))
    exact ⟨fun c hc => hline c (mem_line.2 (.inl hc)),
      fun c hc => hline c (mem_line.2 (.inr (.inr hc)))⟩
  · intro h c hc
    rcases mem_toText.1 hc with hc | rfl | ⟨entry, hentry, hc⟩
    · exact (isPlain_heading c hc).1
    · rfl
    · rcases mem_line.1 hc with hkey | rfl | hvalue
      · exact (h entry hentry).1 c hkey
      · rfl
      · exact (h entry hentry).2 c hvalue

theorem ReadFrom.isPlain (h : ReadFrom t entry) (ht : Utf8.IsScalar t) :
    IsPlain entry.1 ∧ IsPlain entry.2 := by
  constructor
  · intro c hc
    exact ⟨ht c (h.key_line c hc).1, (h.key_line c hc).2⟩
  · intro c hc
    exact ⟨ht c (h.value_line c hc).1, (h.value_line c hc).2⟩

theorem exists_replaceText {files : Tree} {p : Path} (ht : Utf8.IsScalar t)
    (hwrite : ∀ octets, ∃ written,
      files.write p octets = .ok written ∧ written.Holds p octets) :
    ∃ written, replaceText files p t = (written, .ok ()) ∧
      written.Holds p (Utf8.encodeWide t) := by
  obtain ⟨emptied, hempty, -⟩ := hwrite []
  obtain ⟨written, hwrite, hwritten⟩ := hwrite (Utf8.encodeWide t)
  refine ⟨written, ?_, hwritten⟩
  unfold replaceText
  rw [hempty]
  dsimp only
  rw [Utf8.encode_eq_ok ht]
  dsimp only
  rw [hwrite]

theorem of_replaceText_eq_ok {files written : Tree} {p : Path}
    (h : replaceText files p t = (written, .ok ())) :
    Utf8.IsScalar t ∧ ∃ emptied, files.write p [] = .ok emptied := by
  unfold replaceText at h
  cases hempty : files.write p [] with
  | error e =>
    rw [hempty] at h
    cases h
  | ok emptied =>
    rw [hempty] at h
    dsimp only at h
    split at h
    next => cases h
    next octets hencode => exact ⟨Utf8.isScalar_of_encode hencode, emptied, rfl⟩

section Written

variable {entries : Keyed Text} (h : ∀ entry ∈ entries, IsPlain entry.1 ∧ IsPlain entry.2)

include h

private theorem isPlain_of_mem_toText {c : CodePoint} (hc : c ∈ toText entries) :
    c = CodePoint.ofChar '\n' ∨ c.isSurrogate = false ∧ c.isLineBreak = false := by
  rcases mem_toText.1 hc with hc | rfl | ⟨entry, hentry, hc⟩
  · exact .inr (isPlain_heading c hc)
  · exact .inl rfl
  · rcases mem_line.1 hc with hkey | rfl | hvalue
    · exact .inr ((h entry hentry).1 c hkey)
    · exact .inr (by decide)
    · exact .inr ((h entry hentry).2 c hvalue)

theorem isScalar_toText : Utf8.IsScalar (toText entries) :=
  isScalar_toText_iff.2 fun entry hentry =>
    ⟨fun c hc => ((h entry hentry).1 c hc).1, fun c hc => ((h entry hentry).2 c hc).1⟩

private theorem return_not_mem_toText : CodePoint.ofChar '\r' ∉ toText entries := by
  intro hc
  rcases isPlain_of_mem_toText h hc with hnewline | hplain
  · exact absurd hnewline (by decide)
  · exact absurd hplain.2 (by decide)

theorem readText_of_holds_toText {files : Tree} {p : Path}
    (hholds : files.Holds p (Utf8.encodeWide (toText entries))) :
    files.readText p = .ok (toText entries) := by
  refine Tree.readText_eq_ok_iff.2 ⟨_, _, hholds, Utf8.decode_encodeWide (isScalar_toText h), ?_⟩
  exact Text.unifyBreaks_of_no_return (return_not_mem_toText h)

theorem replaceText_eq_ok {files : Tree} {p : Path} (hwrite : ∀ octets, ∃ written,
      files.write p octets = .ok written ∧ written.Holds p octets) :
    ∃ written, replaceText files p (toText entries) = (written, .ok ()) ∧
      written.readText p = .ok (toText entries) ∧ written.isFile p = .ok true := by
  obtain ⟨written, hreplace, hholds⟩ := exists_replaceText (isScalar_toText h) hwrite
  exact ⟨written, hreplace, readText_of_holds_toText h hholds, hholds.isFile⟩

end Written

theorem existing_eq_ok {files : Tree} {p : Path} (h : files.readText p = .ok t) :
    existing files p = .ok (ofText t) := by
  obtain ⟨octets, text, hholds, -, -⟩ := Tree.readText_eq_ok_iff.1 h
  unfold existing
  rw [hholds.entryAt?, h]
  rfl

section Changed

variable {files : Tree} {p : Path} {values : Keyed (Option Text)} (h : files.readText p = .ok t)
  (hvalues : ∀ entry ∈ assigned values, IsPlain entry.1 ∧ IsPlain entry.2)

include h hvalues

theorem isPlain_of_mem_putAll : ∀ entry ∈ (ofText t).putAll (assigned values),
    IsPlain entry.1 ∧ IsPlain entry.2 := by
  intro entry hentry
  rcases Keyed.mem_of_mem_putAll hentry with hold | hnew
  · exact (readFrom_of_mem_ofText hold).isPlain (isScalar_of_readText h)
  · exact hvalues entry hnew

theorem exists_update :
    ∃ written, update files p values = (written, .ok ()) ∧
      written.Holds p (Utf8.encodeWide (toText ((ofText t).putAll (assigned values)))) := by
  obtain ⟨octets, text, hholds, -, -⟩ := Tree.readText_eq_ok_iff.1 h
  obtain ⟨hguard, hparent⟩ := hholds.parent
  obtain ⟨written, hreplace, hwritten⟩ :=
    exists_replaceText (isScalar_toText (isPlain_of_mem_putAll h hvalues)) hholds.write
  refine ⟨written, ?_, hwritten⟩
  unfold update
  rw [Tree.ensureDirectory_of_directory hguard hparent]
  dsimp only
  rw [existing_eq_ok h]
  exact hreplace

theorem update_eq_ok :
    ∃ written, update files p values = (written, .ok ()) ∧
      written.readText p = .ok (toText ((ofText t).putAll (assigned values))) ∧
      written.isFile p = .ok true := by
  obtain ⟨written, hupdate, hholds⟩ := exists_update h hvalues
  have hread := readText_of_holds_toText (isPlain_of_mem_putAll h hvalues) hholds
  exact ⟨written, hupdate, hread, hholds.isFile⟩

end Changed

/-! A file that is not there yet -/

section New

variable {files made : Tree} {p : Path} {values : Keyed (Option Text)}
  (hmade : files.ensureDirectory p.parent = (made, .ok ())) (hvacant : made.IsVacant p)

include hmade hvacant

theorem update_new : update files p values =
    replaceText made p (toText (Keyed.putAll [] (assigned values))) := by
  have hexisting : existing made p = .ok [] := by
    unfold existing
    rw [hvacant.entryAt?]
    rfl
  unfold update
  rw [hmade]
  dsimp only
  rw [hexisting]

theorem isScalar_of_update_new {written : Tree} (h : update files p values = (written, .ok ())) :
    Utf8.IsScalar (toText (Keyed.putAll [] (assigned values))) :=
  (of_replaceText_eq_ok ((update_new hmade hvacant).symm.trans h)).1

end New

end NodePanel.EnvFile
