import NodePanel.Proofs.EnvFile.Assignment
import NodePanel.Proofs.EnvFile.Interpolation
import NodePanel.Proofs.Settings.Setting

/-!
What a setting reads from the user's file after it was written there. The new line counts unless the
file binds the variable in another spelling that first comes up later, or a quotation mark in
another value makes that value run over the line; the old variables are written back with the
quotation marks inside their values, so both can happen.
-/
namespace NodePanel.Settings

open EnvFile

variable {files : Tree} {environment : Environment} {source t : Text} {path : Path} {s : Settings}

/-- What a setting reads from the bindings of a file: the value of the binding that decides, and an
empty text if none names it. -/
def ReadsAs (environment : Environment) (bs : List Binding) (setting value : Text) : Prop :=
  (∃ earlier binding later, bs = earlier ++ binding :: later ∧
    Decides setting earlier binding later ∧
      (resolved environment earlier binding).getD [] = value) ∨
  value = [] ∧ ∀ binding ∈ bs, foldCase binding.1 ≠ setting

theorem readsAs_iff {bs : List Binding} {setting value : Text} :
    ReadsAs environment bs setting value ↔
      ((folded (resolve environment bs)).get? setting).join.getD [] = value := by
  unfold ReadsAs
  rw [← get?_folded_resolve_eq_none_iff environment bs setting]
  cases hfound : (folded (resolve environment bs)).get? setting with
  | none =>
    constructor
    · rintro (⟨earlier, binding, later, hbs, hdecides, -⟩ | ⟨rfl, -⟩)
      · have hsome := (get?_folded_resolve_iff environment bs setting _).2
          ⟨earlier, binding, later, hbs, hdecides, rfl⟩
        rw [hfound] at hsome
        contradiction
      · rfl
    · rintro rfl
      exact .inr ⟨rfl, rfl⟩
  | some found =>
    obtain ⟨earlier, binding, later, hbs, hdecides, hresolved⟩ :=
      (get?_folded_resolve_iff environment bs setting found).1 hfound
    constructor
    · rintro (⟨earlier', binding', later', hbs', hdecides', rfl⟩ | ⟨-, hnone⟩)
      · have hsome := (get?_folded_resolve_iff environment bs setting _).2
          ⟨earlier', binding', later', hbs', hdecides', rfl⟩
        rw [hfound] at hsome
        rw [Option.some.inj hsome]
        rfl
      · contradiction
    · rintro rfl
      exact .inl ⟨earlier, binding, later, hbs, hdecides, congrArg (·.getD []) hresolved⟩

theorem key_eq_iff [Machine]
    (hsource : Location.expandUser environment (Path.ofText source) = .ok path)
    (henvironment : IsUnmarked environment) (hfile : files.isFile path = .ok true)
    (hread : files.readText path = .ok t)
    (h : load files environment [source] [] = .ok s) (value : Text) :
    s.key = value ↔
      ReadsAs environment (bindings (dropMark t)) (mark ++ Text.ofString "key") value := by
  have hkey := (load_file_iff hsource henvironment hfile hread).1 h .key
  have hvalue : (fileValue environment t .key).getD [] = s.key := by
    cases hfound : fileValue environment t .key with
    | none =>
      rw [hfound] at hkey
      exact Except.ok.inj hkey
    | some v =>
      rw [hfound] at hkey
      exact Except.ok.inj hkey
  rw [readsAs_iff]
  change _ ↔ (fileValue environment t .key).getD [] = value
  rw [hvalue]

/-! The line that is written -/

private theorem readsAs_put (environment : Environment) {entries : Keyed Text} {name value : Text}
    (hnodup : entries.keys.Nodup)
    (hothers : ∀ entry ∈ entries, entry.1 ≠ name → IsBare (line entry) ∧
      ∀ binding ∈ bindingOfLine? (line entry), foldCase binding.1 ≠ foldCase name)
    (hbare : IsBare (line (name, value)))
    (hline : bindingOfLine? (line (name, value)) = some (name, some value))
    (hdollar : CodePoint.ofChar '$' ∉ value) :
    ReadsAs environment (bindings (dropMark (toText (entries.put name value)))) (foldCase name)
      value := by
  have hput : ∀ entry ∈ entries.put name value, IsBare (line entry) := by
    intro entry hentry
    rcases Keyed.mem_put.1 hentry with ⟨hmem, hne⟩ | rfl
    · exact (hothers entry hmem hne).1
    · exact hbare
  have hperm : ((entries.put name value).sorted).Perm (entries.put name value) :=
    List.mergeSort_perm _ _
  obtain ⟨before, after, hsplit⟩ :=
    List.append_of_mem (hperm.mem_iff.2 (Keyed.mem_put.2 (.inr rfl)))
  have hmiddle : ((name, value) :: (before ++ after)).Perm (entries.put name value) := by
    rw [hsplit] at hperm
    exact List.perm_middle.symm.trans hperm
  have hunique : name ∉ (before ++ after).map Prod.fst := by
    have hkeys := (hmiddle.map Prod.fst).nodup_iff.2 (Keyed.nodup_put hnodup)
    exact (List.nodup_cons.1 hkeys).1
  rw [bindings_toText hput, hsplit, List.filterMap_append, List.filterMap_cons, hline]
  refine .inl ⟨_, (name, some value), _, rfl, decides_of_only rfl ?_, ?_⟩
  · intro binding hbinding
    rw [← List.filterMap_append] at hbinding
    obtain ⟨entry, hentry, hfound⟩ := List.mem_filterMap.1 hbinding
    have hne : entry.1 ≠ name := fun heq => hunique (heq ▸ List.mem_map_of_mem hentry)
    have hmem := hmiddle.mem_iff.1 (List.mem_cons_of_mem _ hentry)
    rcases Keyed.mem_put.1 hmem with ⟨hold, -⟩ | rfl
    · exact (hothers entry hold hne).2 binding hfound
    · exact absurd rfl hne
  · show (some (interpolate _ value)).getD [] = value
    rw [interpolate_of_no_dollar hdollar]
    rfl

def IsAlphanumeric (t : Text) : Prop := ∀ c ∈ t, (c.isAsciiLetter || c.isAsciiDigit) = true

instance : DecidablePred IsAlphanumeric := fun t => inferInstanceAs (Decidable (∀ c ∈ t, _))

section Alphanumeric

variable {value : Text} (h : IsAlphanumeric value)

include h

theorem IsAlphanumeric.val_mem {c : CodePoint} (hc : c ∈ value) :
    0x30 ≤ c.val ∧ c.val ≤ 0x39 ∨ 0x41 ≤ c.val ∧ c.val ≤ 0x5A ∨ 0x61 ≤ c.val ∧ c.val ≤ 0x7A := by
  have hkind := h c hc
  simp only [CodePoint.isAsciiLetter, CodePoint.isAsciiUpper, CodePoint.isAsciiLower,
    CodePoint.isAsciiDigit, Bool.or_eq_true, Bool.and_eq_true, decide_eq_true_eq] at hkind
  omega

theorem IsAlphanumeric.not_mem {c : CodePoint} (hc : (c.isAsciiLetter || c.isAsciiDigit) = false) :
    c ∉ value := fun hmem => by
  rw [h c hmem] at hc
  contradiction

theorem IsAlphanumeric.isSolid : IsSolid value := by
  intro c hc
  have hval := h.val_mem hc
  simp only [CodePoint.isBlank, CodePoint.isWhiteSpace, Bool.or_eq_false_iff,
    Bool.and_eq_false_iff, decide_eq_false_iff_not, beq_eq_false_iff_ne]
  omega

theorem IsAlphanumeric.isPlain : IsPlain value := by
  intro c hc
  have hval := h.val_mem hc
  constructor
  · simp only [CodePoint.isSurrogate, Bool.and_eq_false_iff, decide_eq_false_iff_not]
    omega
  · refine Bool.eq_false_iff.2 fun hbreak => ?_
    have hblank := CodePoint.isBlank_of_isLineBreak hbreak
    rw [h.isSolid c hc] at hblank
    contradiction

theorem IsAlphanumeric.isBare : IsBare value := by
  intro c hc
  exact ⟨ne_of_mem_of_not_mem hc (h.not_mem (by decide)),
    ne_of_mem_of_not_mem hc (h.not_mem (by decide)),
    ne_of_mem_of_not_mem hc (h.not_mem (by decide))⟩

end Alphanumeric

def keyName : Text := "SAKURA_KEY"

theorem isPlain_keyName : IsPlain keyName := by decide

private theorem isBare_keyName : IsBare keyName := by decide

theorem isName_keyName : IsName keyName := by
  constructor
  · decide
  · decide
  · decide

/-- Whether a variable of a file can do no harm to a key that is written beside it: its line has no
quotation marks and binds no other spelling of the key. -/
def LeavesKey (entry : Text × Text) : Prop :=
  IsBare (line entry) ∧ ∀ binding ∈ bindingOfLine? (line entry), foldCase binding.1 ≠ foldCase keyName

/-- A key of letters and digits is written over any file that can be read. It is then read from the
new file alone exactly if the other settings are still accepted and the bindings of the new text
read as it, which they do if no other variable of the old file stands in the way. -/
theorem key_after_update_iff [Machine] {files : Tree} {environment : Environment}
    {source prior value : Text} {path : Path}
    (hsource : Location.expandUser environment (Path.ofText source) = .ok path)
    (henvironment : IsUnmarked environment) (hprior : files.readText path = .ok prior)
    (hvalue : IsAlphanumeric value) :
    ∃ written, update files path [(keyName, some value)] = (written, .ok ()) ∧
      ((∃ s, load written environment [source] [] = .ok s ∧ s.key = value) ↔
        (∃ s, load written environment [source] [] = .ok s) ∧
          ReadsAs environment (bindings (toText ((ofText prior).put keyName value)))
            (foldCase keyName) value) ∧
      ((∀ entry ∈ ofText prior, entry.1 ≠ keyName → LeavesKey entry) →
        ReadsAs environment (bindings (toText ((ofText prior).put keyName value)))
          (foldCase keyName) value) := by
  have hplain : ∀ entry ∈ assigned [(keyName, some value)], IsPlain entry.1 ∧ IsPlain entry.2 := by
    intro entry hentry
    rw [List.mem_singleton.1 hentry]
    exact ⟨isPlain_keyName, hvalue.isPlain⟩
  obtain ⟨written, hupdate, hread, hfile⟩ := update_eq_ok hprior hplain
  have hkey (s : Settings) (hs : load written environment [source] [] = .ok s) :=
    key_eq_iff hsource henvironment hfile hread hs value
  rw [dropMark_toText] at hkey
  refine ⟨written, hupdate, ?_, fun hothers => ?_⟩
  · constructor
    · rintro ⟨s, hs, heq⟩
      exact ⟨⟨s, hs⟩, (hkey s hs).1 heq⟩
    · rintro ⟨⟨s, hs⟩, hreads⟩
      exact ⟨s, hs, (hkey s hs).2 hreads⟩
  · have hbare : IsBare (line (keyName, value)) := by
      intro c hc
      rcases List.mem_append.1 hc with hc | hc
      · exact isBare_keyName c hc
      · rcases List.mem_cons.1 hc with rfl | hc
        · decide
        · exact hvalue.isBare c hc
    have hline : bindingOfLine? (line (keyName, value)) = some (keyName, some value) :=
      bindingOfLine?_line (.plain isName_keyName (by decide)) hvalue.isSolid fun c hc =>
        (hvalue.isBare c (List.mem_of_mem_head? hc)).2
    have hreads := readsAs_put environment Keyed.nodup_collect hothers hbare hline
      (hvalue.not_mem (by decide))
    rwa [dropMark_toText] at hreads

example : LeavesKey ("SAKURA_NODE_ID", "7") := ⟨by decide, by decide +kernel⟩

theorem sorted_pair (a b : Text × α) :
    Keyed.sorted [a, b] = if Text.le a.1 b.1 then [a, b] else [b, a] := by
  unfold Keyed.sorted
  simp [List.mergeSort, List.MergeSort.Internal.splitInTwo, List.merge]

def lowerCaseText : Text := "sakura_key=old\n"

def lowerCaseFiles : Tree :=
  Tree.empty.place (Path.ofText "u.env") (.file (Utf8.encodeWide lowerCaseText))

attribute [local instance] Machine.usual

/-- A key in lower case stays behind the one that is written, and hides it. -/
theorem not_key_after_update_of_lowerCase :
    ∃ written, update lowerCaseFiles (Path.ofText "u.env") [(keyName, some "new1")] =
        (written, .ok ()) ∧
      ¬ ∃ s, load written [] ["u.env"] [] = .ok s ∧ s.key = "new1" := by
  let new : Text × Text := (keyName, "new1")
  let old : Text × Text := ("sakura_key", "old")
  obtain ⟨written, hupdate, hiff, -⟩ := @key_after_update_iff _ lowerCaseFiles [] "u.env"
    lowerCaseText "new1" (Path.ofText "u.env") rfl (by decide) rfl (by decide)
  refine ⟨written, hupdate, fun h => ?_⟩
  have hreads := (hiff.1 h).2
  have hentries : (ofText lowerCaseText).put keyName "new1" = [old, new] := by decide +kernel
  have hsorted : Keyed.sorted [old, new] = [new, old] := by
    rw [sorted_pair]
    decide +kernel
  have hbindings : [new, old].filterMap (fun entry => bindingOfLine? (line entry)) =
      [(new.1, some new.2), (old.1, some old.2)] := by decide +kernel
  have hresolve : resolve [] [(new.1, some new.2), (old.1, some old.2)] =
      [(new.1, some new.2), (old.1, some old.2)] := by
    simp only [resolve, List.foldl_cons, List.foldl_nil, Option.map_some]
    rw [interpolate_of_no_dollar (by decide), interpolate_of_no_dollar (by decide)]
    rfl
  rw [readsAs_iff, hentries, ← dropMark_toText, bindings_toText (by decide), hsorted, hbindings,
    hresolve] at hreads
  exact absurd hreads (by decide +kernel)

end NodePanel.Settings
