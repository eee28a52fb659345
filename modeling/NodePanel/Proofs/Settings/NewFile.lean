import NodePanel.Proofs.EnvFile.Quoted
import NodePanel.Proofs.Settings.Update

/-!
A key that is written where there was no file, and read back. Values are written as they are, without
quotation marks, and so only some of them are read as they are: not those that start with a quotation
mark, that have a number sign behind a blank, or in which a variable is named.
-/
namespace NodePanel.Settings

open EnvFile

variable {environment : Environment} {name value t : Text}

/-! A file with one variable -/

private theorem fileValue_of_nil (h : bindings (dropMark t) = []) (x : Setting) :
    fileValue environment t x = none := by
  unfold fileValue bindingsOfText
  rw [h]
  rfl

theorem fileValue_of_singleton {u v : Text} (h : bindings (dropMark t) = [(name, some u)])
    (x : Setting) :
    fileValue environment t x = some v ↔
      foldCase name = mark ++ x.name ∧ interpolate (variableValue environment []) u = v := by
  have hdistinct : IsDistinct (bindings (dropMark t)) := by
    rw [h]
    exact List.pairwise_singleton _ _
  rw [fileValue_eq_some_iff hdistinct, h]
  constructor
  · rintro ⟨earlier, n, u, later, hsplit, hname, hu⟩
    obtain ⟨rfl, heq⟩ | ⟨-, hnil⟩ := List.singleton_eq_append_iff.1 hsplit
    · cases heq
      exact ⟨hname, hu⟩
    · contradiction
  · rintro ⟨hname, hu⟩
    exact ⟨[], name, u, [], rfl, hname, hu⟩

private theorem bindings_toText_singleton (hname : IsName name) :
    bindings (dropMark (toText [(name, value)])) =
      (nextBinding (line (name, value) ++ [newline])).1.toList ++
        bindings (nextBinding (line (name, value) ++ [newline])).2 := by
  have hlines : toText [(name, value)] =
      heading ++ newline :: (line (name, value) ++ [newline]) := by
    rw [toText_eq_lines, Keyed.sorted, List.mergeSort_singleton, lines_cons, List.map_singleton,
      lines_cons]
    rfl
  obtain ⟨c, rest, rfl⟩ := List.exists_cons_of_ne_nil hname.ne_nil
  have hc := isBlank_of_isKeyPoint (hname.isKeyPoint c List.mem_cons_self)
  have hfront : (line (c :: rest, value) ++ [newline]).dropWhile CodePoint.isBlank =
      line (c :: rest, value) ++ [newline] := List.dropWhile_cons_of_neg (by simp [hc])
  rw [dropMark_toText, hlines, bindings_line isBare_heading, bindingOfLine?_heading]
  exact bindings_of_cons hfront

private theorem exists_read_of_toText_singleton (hname : IsName name) (hexport : name ≠ exportWord)
    (hvalue : newline ∉ value) (hblank : value.head?.any isInlineBlank = false) :
    ∃ read : Option Text,
      (∀ (environment : Environment) (x : Setting) (v : Text),
        fileValue environment (toText [(name, value)]) x = some v ↔
          foldCase name = mark ++ x.name ∧
            ∃ u ∈ read, interpolate (variableValue environment []) u = v) ∧
        (IsUnquoted value → read = some (bareValue value)) ∧
        (¬ IsUnquoted value → ∀ u ∈ read, u.length < value.length ∧
          u.count dollar ≤ value.count dollar) := by
  obtain ⟨read, hnext, hread⟩ := nextBinding_lastLine (.plain hname hexport) hvalue hblank
  have hbindings : bindings (dropMark (toText [(name, value)])) =
      (read.map fun u => (name, some u)).toList := by
    rw [bindings_toText_singleton hname, hnext, bindings_nil, List.append_nil]
  refine ⟨read, fun environment x v => ?_, hread⟩
  cases read with
  | none => simp [fileValue_of_nil hbindings x]
  | some u => simp [fileValue_of_singleton hbindings x]

/-! The key -/

/-- A value that is read as it is from a line that it was written on. -/
structure IsVerbatim (value : Text) : Prop where
  scalar : Utf8.IsScalar value
  unquoted : IsUnquoted value
  uncommented : IsUncommented value
  literal : IsLiteral value

theorem foldCase_keyName : foldCase keyName = mark ++ Setting.key.name := by decide

theorem fileValue_eq_none {x : Setting} (hx : x ≠ .key)
    (h : ∀ v, fileValue environment t x = some v → foldCase keyName = mark ++ x.name) :
    fileValue environment t x = none := by
  refine Option.eq_none_iff_forall_ne_some.2 fun v hv => hx ?_
  exact Setting.eq_of_name_eq (List.append_cancel_left ((h v hv).symm.trans foldCase_keyName))

private theorem fileValue_toText_key (environment : Environment) (hvalue : newline ∉ value)
    (hstrip : Text.strip value = value) :
    (∀ x ≠ Setting.key, fileValue environment (toText [(keyName, value)]) x = none) ∧
      (IsVerbatim value → fileValue environment (toText [(keyName, value)]) .key = some value) ∧
      (Utf8.IsScalar value → (∀ entry ∈ environment, dollar ∉ entry.2) →
        fileValue environment (toText [(keyName, value)]) .key = some value → IsVerbatim value) := by
  have htrimmed := Text.isTrimmed_of_trim_eq hstrip
  have hblank := head?_any_isInlineBlank htrimmed.head
  have hend := htrimmed.dropEndWhile
  obtain ⟨read, hread, hbare, hquoted⟩ :=
    exists_read_of_toText_singleton isName_keyName (by decide) hvalue hblank
  refine ⟨fun x hx => ?_, fun h => ?_, fun hscalar hdollars hkey => ?_⟩
  · exact fileValue_eq_none hx fun v hv => ((hread environment x v).1 hv).1
  · refine (hread environment .key value).2 ⟨foldCase_keyName, bareValue value, ?_, ?_⟩
    · exact hbare h.unquoted
    · rw [(bareValue_eq_self_iff hend).2 h.uncommented, interpolate_of_isLiteral h.literal]
  · obtain ⟨-, u, hu, heq⟩ := (hread environment .key value).1 hkey
    have hsame (hcount : u.count dollar ≤ value.count dollar) : u = value ∧ IsLiteral u :=
      eq_of_interpolate_eq (count_variableValue_le hdollars) hcount heq
    by_cases hunquoted : IsUnquoted value
    · obtain rfl : bareValue value = u := Option.some.inj ((hbare hunquoted).symm.trans hu)
      obtain ⟨hbareValue, hliteral⟩ :=
        hsame ((isPrefix_bareValue value).sublist.count_le dollar)
      rw [hbareValue] at hliteral
      exact ⟨hscalar, hunquoted, (bareValue_eq_self_iff hend).1 hbareValue, hliteral⟩
    · obtain ⟨hlength, hcount⟩ := hquoted hunquoted u hu
      rw [(hsame hcount).1] at hlength
      exact absurd hlength (Nat.lt_irrefl _)

section NewFile

variable {files made written : Tree} {path : Path}
  (hmade : files.ensureDirectory path.parent = (made, .ok ())) (hvacant : made.IsVacant path)
  (hline : ∀ c ∈ value, c.isLineBreak = false)

include hmade hvacant in
private theorem isScalar_of_new_key
    (h : update files path [(keyName, some value)] = (written, .ok ())) : Utf8.IsScalar value := by
  have hentries : Keyed.putAll [] (assigned [(keyName, some value)]) = [(keyName, value)] := rfl
  have hscalar := isScalar_of_update_new hmade hvacant h
  rw [hentries] at hscalar
  exact (isScalar_toText_iff.1 hscalar _ List.mem_cons_self).2

include hmade hvacant hline in
theorem update_new_key (h : Utf8.IsScalar value) :
    ∃ written, update files path [(keyName, some value)] = (written, .ok ()) ∧
      written.readText path = .ok (toText [(keyName, value)]) ∧
      written.isFile path = .ok true := by
  have hplain : ∀ entry ∈ [(keyName, value)], IsPlain entry.1 ∧ IsPlain entry.2 := by
    intro entry hentry
    rw [List.mem_singleton.1 hentry]
    exact ⟨isPlain_keyName, fun c hc => ⟨h c hc, hline c hc⟩⟩
  obtain ⟨written, hreplace, hread⟩ := replaceText_eq_ok hplain hvacant.write
  exact ⟨written, (update_new hmade hvacant).trans hreplace, hread⟩

variable [Machine] {source : Text}
  (hsource : Location.expandUser environment (Path.ofText source) = .ok path)
  (henvironment : IsUnmarked environment)

include hsource henvironment in
theorem exists_key_iff (hfile : written.isFile path = .ok true)
    (hread : written.readText path = .ok t) (hne : value ≠ [])
    (hothers : ∀ x ≠ Setting.key, fileValue environment t x = none) :
    (∃ s, load written environment [source] [] = .ok s ∧ s.key = value) ↔
      fileValue environment t .key = some value := by
  have hload {s : Settings} := load_file_iff (s := s) hsource henvironment hfile hread
  constructor
  · rintro ⟨s, hs, rfl⟩
    have hkey := hload.1 hs .key
    cases hfound : fileValue environment t .key with
    | none =>
      rw [hfound] at hkey
      exact absurd (Except.ok.inj hkey).symm hne
    | some v =>
      rw [hfound] at hkey
      exact congrArg some (Except.ok.inj hkey)
  · intro hkey
    have haccepted : ∀ x : Setting, ∃ v, x.ofVariable (fileValue environment t x) = .ok v := by
      intro x
      by_cases hx : x = .key
      · subst hx
        rw [hkey]
        exact ⟨value, rfl⟩
      · rw [hothers x hx]
        exact ⟨x.default, rfl⟩
    obtain ⟨s, hs⟩ := (load_file_ok_iff hsource henvironment hfile hread).2 haccepted
    have hvalue := hload.1 hs .key
    rw [hkey] at hvalue
    exact ⟨s, hs, (Except.ok.inj hvalue).symm⟩

include hsource henvironment hmade hvacant hline

/-- A key on one line, without blanks at its ends, that is written where no file is. It is read as
it was written if it is verbatim, and otherwise not, as long as no variable of the environment has a
dollar in its value. -/
theorem key_of_new_file_iff (hne : value ≠ []) (hstrip : Text.strip value = value) :
    (IsVerbatim value → ∃ written, update files path [(keyName, some value)] = (written, .ok ()) ∧
      ∃ s, load written environment [source] [] = .ok s ∧ s.key = value) ∧
    ((∀ entry ∈ environment, dollar ∉ entry.2) →
      (∃ written, update files path [(keyName, some value)] = (written, .ok ()) ∧
        ∃ s, load written environment [source] [] = .ok s ∧ s.key = value) → IsVerbatim value) := by
  have hvalue : newline ∉ value := fun hmem => absurd (hline _ hmem) (by decide)
  obtain ⟨hothers, hverbatim, hconverse⟩ :=
    fileValue_toText_key environment hvalue hstrip
  constructor
  · intro h
    obtain ⟨written, hupdate, hread, hfile⟩ := update_new_key hmade hvacant hline h.scalar
    have hloaded := exists_key_iff hsource henvironment hfile hread hne hothers
    exact ⟨written, hupdate, hloaded.2 (hverbatim h)⟩
  · rintro hdollars ⟨written, hupdate, hloaded⟩
    have hscalar := isScalar_of_new_key hmade hvacant hupdate
    obtain ⟨written', hupdate', hread, hfile⟩ := update_new_key hmade hvacant hline hscalar
    obtain rfl : written' = written := congrArg Prod.fst (hupdate'.symm.trans hupdate)
    have hkey := (exists_key_iff hsource henvironment hfile hread hne hothers).1 hloaded
    exact hconverse hscalar hdollars hkey

end NewFile

attribute [local instance] Machine.usual

/-- What follows a number sign behind a blank is lost. -/
theorem not_key_of_new_file_of_number_sign :
    ¬ ∃ written, update Tree.empty (Path.ofText "u.env") [(keyName, some "my secret #1")] =
        (written, .ok ()) ∧
      ∃ s, load written [] ["u.env"] [] = .ok s ∧ s.key = "my secret #1" := by
  have hvacant : Tree.empty.IsVacant (Path.ofText "u.env") := ⟨by decide, _, rfl, rfl⟩
  have hiff := @key_of_new_file_iff [] "my secret #1" Tree.empty Tree.empty
    (Path.ofText "u.env") rfl hvacant (by decide) _ "u.env" rfl (by decide) (by decide) (by decide)
  intro h
  have hverbatim := hiff.2 nofun h
  exact absurd (hverbatim.uncommented "my secret" ' ' "1" rfl) (by decide)

end NodePanel.Settings
