import NodePanel.Command.Setup
import NodePanel.Proofs.EnvFile.LineStart
import NodePanel.Proofs.Record.Coercion
import NodePanel.Proofs.Settings.Setting
import NodePanel.Proofs.SortedKeys

/-!
Answers and the file that keeps them. Whatever was typed, an answer is on one line and has no blanks at
its ends, so it is on a line of its own in the file, and from a file with nothing but the answers at
most their variables are read.
-/
namespace NodePanel.Setup

open EnvFile Settings

variable {s : Setup} {typed : List Text} {t : Text}

/-! Answers -/

structure IsTyped (t : Text) : Prop where
  newline_not_mem : newline ∉ t
  return_not_mem : CodePoint.ofChar '\r' ∉ t

instance : DecidablePred IsTyped := fun t =>
  decidable_of_iff (newline ∉ t ∧ CodePoint.ofChar '\r' ∉ t)
    ⟨fun h => ⟨h.1, h.2⟩, fun h => ⟨h.newline_not_mem, h.return_not_mem⟩⟩

/-- A text as it is kept: on one line, without blanks at its ends. -/
structure IsAnswer (t : Text) : Prop extends IsTyped t where
  trimmed : Text.IsTrimmed CodePoint.isBlank t

theorem IsTyped.isAnswer_strip (h : IsTyped t) : IsAnswer (Text.strip t) where
  newline_not_mem := fun hc => h.newline_not_mem (Text.trim_subset hc)
  return_not_mem := fun hc => h.return_not_mem (Text.trim_subset hc)
  trimmed := Text.isTrimmed_trim

private theorem isAnswer_ofInt (n : Int) : IsAnswer (Text.ofInt n) := by
  have hblank : IsSolid (Text.ofInt n) := fun c hc => Coercion.isBlank_of_mem_ofInt hc
  exact {
    newline_not_mem := fun hc => absurd (hblank _ hc) (by decide)
    return_not_mem := fun hc => absurd (hblank _ hc) (by decide)
    trimmed := Text.isTrimmed_of_forall hblank }

/-- The answers are typed lines, or the defaults. -/
structure IsAnswered (typed : List Text) (s : Setup) : Prop where
  apiHost : ∃ answer, (answer = defaultHost ∨ answer ∈ typed) ∧ s.apiHost = Text.strip answer
  nodeId : s.nodeId = defaultNodeId ∨
    ∃ answer ∈ typed, Coercion.readInt (.str answer) = .ok s.nodeId
  nodeType : ∃ answer, (answer = defaultType ∨ answer ∈ typed) ∧ s.nodeType = Text.strip answer
  key : ∃ answer ∈ typed, s.key = Text.strip answer

theorem askText_eq_some {default answer : Text} {rest : List Text}
    (h : askText default typed = some (answer, rest)) :
    (answer = default ∨ answer ∈ typed) ∧ rest ⊆ typed := by
  cases typed with
  | nil => contradiction
  | cons line typed =>
    cases h
    refine ⟨?_, List.subset_cons_self _ _⟩
    split
    · exact .inl rfl
    · exact .inr List.mem_cons_self

private theorem askSecret_eq_some {answer : Text} {rest : List Text}
    (h : askSecret typed = some (answer, rest)) : answer ∈ typed := by
  induction typed with
  | nil => contradiction
  | cons line typed ih =>
    unfold askSecret at h
    split at h
    · exact List.mem_cons_of_mem _ (ih h)
    · cases h
      exact List.mem_cons_self

private theorem askInteger_eq_some {default n : Int} {rest : List Text}
    (h : askInteger default typed = some (n, rest)) :
    (n = default ∨ ∃ answer ∈ typed, Coercion.readInt (.str answer) = .ok n) ∧ rest ⊆ typed := by
  induction typed with
  | nil => contradiction
  | cons line typed ih =>
    unfold askInteger at h
    split at h
    · cases h
      exact ⟨.inl rfl, List.subset_cons_self _ _⟩
    · split at h
      next m hread =>
        cases h
        exact ⟨.inr ⟨line, List.mem_cons_self, hread⟩, List.subset_cons_self _ _⟩
      next =>
        obtain ⟨hn, hrest⟩ := ih h
        refine ⟨hn.imp_right ?_, List.subset_cons_of_subset _ hrest⟩
        rintro ⟨answer, hanswer, hread⟩
        exact ⟨answer, List.mem_cons_of_mem _ hanswer, hread⟩

theorem isAnswered_of_ofLines? (h : ofLines? typed = some s) : IsAnswered typed s := by
  obtain ⟨⟨host, typed₁⟩, hhost, h⟩ := Option.bind_eq_some_iff.1 h
  obtain ⟨⟨nodeId, typed₂⟩, hid, h⟩ := Option.bind_eq_some_iff.1 h
  obtain ⟨⟨nodeType, typed₃⟩, htype, h⟩ := Option.bind_eq_some_iff.1 h
  obtain ⟨⟨key, rest⟩, hkey, h⟩ := Option.bind_eq_some_iff.1 h
  cases h
  obtain ⟨hhost, hsubset₁⟩ := askText_eq_some hhost
  obtain ⟨hid, hsubset₂⟩ := askInteger_eq_some hid
  obtain ⟨htype, hsubset₃⟩ := askText_eq_some htype
  have htyped₂ : typed₂ ⊆ typed := List.Subset.trans hsubset₂ hsubset₁
  have htyped₃ : typed₃ ⊆ typed := List.Subset.trans hsubset₃ htyped₂
  exact {
    apiHost := ⟨host, hhost, rfl⟩
    nodeId := hid.imp_right fun ⟨answer, hanswer, hread⟩ => ⟨answer, hsubset₁ hanswer, hread⟩
    nodeType := ⟨nodeType, htype.imp_right fun hmem => htyped₂ hmem, rfl⟩
    key := ⟨key, htyped₃ (askSecret_eq_some hkey), rfl⟩ }

/-- Answers that are each on one line, without blanks at their ends. -/
structure IsKept (s : Setup) : Prop where
  apiHost : IsAnswer s.apiHost
  nodeId : HasText s.nodeId
  nodeType : IsAnswer s.nodeType
  key : IsAnswer s.key

theorem IsAnswered.isKept (h : IsAnswered typed s) (htyped : ∀ l ∈ typed, IsTyped l) : s.IsKept := by
  have hanswer {default answer : Text} (hdefault : IsTyped default)
      (hmem : answer = default ∨ answer ∈ typed) : IsAnswer (Text.strip answer) := by
    rcases hmem with rfl | hmem
    · exact hdefault.isAnswer_strip
    · exact (htyped answer hmem).isAnswer_strip
  obtain ⟨host, hhost, hstrip⟩ := h.apiHost
  obtain ⟨nodeType, htype, hstrip'⟩ := h.nodeType
  obtain ⟨key, hkey, hstrip''⟩ := h.key
  constructor
  · exact hstrip ▸ hanswer ⟨by decide, by decide⟩ hhost
  · rcases h.nodeId with hid | ⟨answer, -, hread⟩
    · rw [hid]
      decide
    · exact Coercion.hasText_of_readInt hread
  · exact hstrip' ▸ hanswer ⟨by decide, by decide⟩ htype
  · exact hstrip'' ▸ (htyped key hkey).isAnswer_strip

/-! The file -/

def names : List Text :=
  ["SAKURA_API_HOST", "SAKURA_KEY", "SAKURA_NODE_ID", "SAKURA_NODE_TYPE"].map Text.ofString

def entries (s : Setup) : Keyed Text := [
  ("SAKURA_API_HOST", s.apiHost), ("SAKURA_KEY", s.key), ("SAKURA_NODE_ID", Text.ofInt s.nodeId),
  ("SAKURA_NODE_TYPE", s.nodeType)]

def text (s : Setup) : Text := lines (heading :: s.entries.map line)

@[simp] theorem keys_entries (s : Setup) : s.entries.keys = names := rfl

theorem isSorted_entries (s : Setup) : Keyed.IsSorted s.entries := by
  have hnames : names.Pairwise fun a b => Text.le a b = true ∧ a ≠ b := by decide
  have hkeys : s.entries.keys.Pairwise Text.Precedes :=
    hnames.imp fun h => Text.precedes_of_le_of_ne h.1 h.2
  exact List.pairwise_map.1 hkeys

@[simp] theorem toText_assignments (s : Setup) :
    toText (Keyed.putAll [] (assigned s.assignments)) = s.text := by
  -- the key is given last, but stands second
  have hperm : (assigned s.assignments).Perm s.entries :=
    (List.perm_append_singleton (Text.ofString "SAKURA_KEY", s.key)
      [("SAKURA_NODE_ID", Text.ofInt s.nodeId), ("SAKURA_NODE_TYPE", s.nodeType)]).cons _
  have hnodup : (assigned s.assignments).keys.Nodup :=
    (hperm.map Prod.fst).nodup_iff.2 s.isSorted_entries.nodup
  have hcollect : Keyed.putAll [] (assigned s.assignments) = assigned s.assignments :=
    Keyed.collect_of_nodup hnodup
  have hsorted : (assigned s.assignments).sorted = s.entries :=
    (Keyed.isSorted_sorted hnodup).eq_of_perm s.isSorted_entries
      ((Keyed.sorted_perm _).trans hperm)
  rw [hcollect, toText_eq_lines, hsorted]
  rfl

theorem IsKept.isAnswer (h : s.IsKept) {entry : Text × Text} (hentry : entry ∈ s.entries) :
    IsAnswer entry.2 := by
  simp only [entries, List.mem_cons, List.not_mem_nil, or_false] at hentry
  rcases hentry with rfl | rfl | rfl | rfl
  · exact h.apiHost
  · exact h.key
  · exact isAnswer_ofInt s.nodeId
  · exact h.nodeType

private theorem isKey_of_mem_names {name : Text} (h : name ∈ names) : IsKey name name := by
  have hnames : ∀ name ∈ names, name ≠ [] ∧ (∀ c ∈ name, isKeyPoint c = true) ∧
      name.head? ≠ some (CodePoint.ofChar '\'') ∧ name ≠ exportWord := by decide
  obtain ⟨hne, hpoints, hquote, hexport⟩ := hnames name h
  exact .plain ⟨hne, hpoints, hquote⟩ hexport

theorem mem_names {entry : Text × Text} (h : entry ∈ s.entries) : entry.1 ∈ names :=
  keys_entries s ▸ List.mem_map_of_mem h

theorem not_mem_line {entry : Text × Text} {c : CodePoint} (hentry : entry ∈ s.entries)
    (hc : c ∉ CodePoint.ofChar '=' :: names.flatten) (hanswer : c ∉ entry.2) : c ∉ line entry := by
  rw [List.mem_cons, not_or] at hc
  intro hmem
  rcases mem_line.1 hmem with hname | hsign | hvalue
  · exact hc.2 (List.mem_flatten_of_mem (mem_names hentry) hname)
  · exact hc.1 hsign
  · exact hanswer hvalue

theorem IsKept.isAssignment (h : s.IsKept) {entry : Text × Text} (hentry : entry ∈ s.entries) :
    IsAssignment entry where
  isKey := isKey_of_mem_names (mem_names hentry)
  blank := head?_any_isInlineBlank (h.isAnswer hentry).trimmed.head
  newline_not_mem := not_mem_line hentry (by decide) (h.isAnswer hentry).newline_not_mem

theorem IsKept.return_not_mem_text (h : s.IsKept) : CodePoint.ofChar '\r' ∉ s.text := by
  intro hmem
  rcases mem_lines_heading.1 hmem with hheading | hbreak | ⟨entry, hentry, hline⟩
  · exact absurd hheading (by decide)
  · exact absurd hbreak (by decide)
  · exact not_mem_line hentry (by decide) (h.isAnswer hentry).return_not_mem hline

theorem bindings_text (s : Setup) :
    bindings (dropMark s.text) = bindings (lines (s.entries.map line)) := by
  have hmark : dropMark s.text = s.text := rfl
  rw [hmark, text, lines_cons, bindings_line isBare_heading, bindingOfLine?_heading]
  rfl

theorem IsKept.names_bindings_sublist (h : s.IsKept) :
    ((bindings (dropMark s.text)).map Prod.fst).Sublist names := by
  rw [bindings_text, ← keys_entries s]
  exact EnvFile.names_bindings_sublist fun entry hentry => h.isAssignment hentry

theorem IsKept.fileValue_eq_none (h : s.IsKept) {environment : Environment} {x : Setting}
    (hx : mark ++ x.name ∉ names.map foldCase) : fileValue environment s.text x = none := by
  unfold fileValue bindingsOfText
  rw [(get?_folded_resolve_eq_none_iff environment _ _).2 fun b hb heq => hx ?_]
  · rfl
  · have hname := h.names_bindings_sublist.subset (List.mem_map_of_mem hb)
    exact heq ▸ List.mem_map_of_mem hname

end NodePanel.Setup
