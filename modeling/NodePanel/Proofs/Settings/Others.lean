import Mathlib.Data.List.Nodup
import NodePanel.Proofs.EnvFile.Kept
import NodePanel.Proofs.Settings.NewFile

/-!
What happens to the other settings when one is written to the user's file. The whole file is written
anew, so every setting is read from another text than before. In a file whose lines are all kept, with
every variable bound once and without variables in values, none but the one that is written changes.
-/
namespace NodePanel.Settings

open EnvFile

variable {environment : Environment} {name value t : Text} {entries : Keyed Text}
  {setting x : Setting}

def nodeTypeName : Text := "SAKURA_NODE_TYPE"

/-- The settings that take any word of letters and digits, and their variables. -/
inductive TakesWords : Setting → Text → Prop where
  | key : TakesWords .key keyName
  | nodeType : TakesWords .nodeType nodeTypeName

namespace TakesWords

theorem foldCase_name (h : TakesWords setting name) : foldCase name = mark ++ setting.name := by
  cases h <;> decide

theorem isName (h : TakesWords setting name) : IsName name := by
  cases h with
  | key => exact isName_keyName
  | nodeType => exact ⟨by decide, by decide, by decide⟩

theorem isKey (h : TakesWords setting name) : IsKey name name := by
  refine .plain h.isName ?_
  cases h <;> decide

theorem isPlain (h : TakesWords setting name) : IsPlain name := by
  cases h <;> decide

theorem ofVariable (h : TakesWords setting name) (hvalue : IsAlphanumeric value) (hne : value ≠ []) :
    ∃ v, setting.ofVariable (some value) = .ok v := by
  cases h with
  | key => exact ⟨value, rfl⟩
  | nodeType =>
    have hscalar : Utf8.IsScalar value := fun c hc => (hvalue.isPlain c hc).1
    exact ⟨value, Coercion.nonempty_eq_ok_iff.2 ⟨hscalar, hne, rfl⟩⟩

end TakesWords

/-! Values of kept texts -/

/-- In a text of kept lines, in which each variable is bound once and to a text without variables, a
setting has the value that is written for it. -/
theorem fileValue_of_kept (environment : Environment) (x : Setting) (v : Text)
    (h : Kept t entries) (hmark : dropMark t = t)
    (hdistinct : IsDistinct (entries.map boundBy))
    (hliteral : ∀ entry ∈ entries, IsLiteral (bareValue entry.2)) :
    fileValue environment t x = some v ↔
      ∃ entry ∈ entries, foldCase (dropExport entry.1) = mark ++ x.name ∧ bareValue entry.2 = v := by
  have hbindings : bindings (dropMark t) = entries.map boundBy := by rw [hmark, h.bindings]
  rw [← hbindings] at hdistinct
  rw [fileValue_eq_some_iff hdistinct, hbindings]
  constructor
  · rintro ⟨earlier, n, u, later, hsplit, hname, hu⟩
    have hmem : (n, some u) ∈ entries.map boundBy := by
      rw [hsplit]
      exact List.mem_append_right _ List.mem_cons_self
    obtain ⟨entry, hentry, heq⟩ := List.mem_map.1 hmem
    cases heq
    rw [interpolate_of_isLiteral (hliteral entry hentry)] at hu
    exact ⟨entry, hentry, hname, hu⟩
  · rintro ⟨entry, hentry, hname, rfl⟩
    obtain ⟨earlier, later, hsplit⟩ := List.append_of_mem (List.mem_map_of_mem hentry)
    exact ⟨earlier, _, _, later, hsplit, hname, interpolate_of_isLiteral (hliteral entry hentry)⟩

theorem isDistinct_boundBy :
    IsDistinct (entries.map boundBy) ↔
      (entries.keys.map fun key => foldCase (dropExport key)).Nodup := by
  unfold IsDistinct Keyed.keys
  rw [List.map_map, List.map_map]
  rfl

/-- The variables of a file stand each for itself: each setting is bound once, in no other spelling
than `name` if it is the one of that name, and no value depends on others. -/
structure IsIndependent (name : Text) (entries : Keyed Text) : Prop where
  distinct : IsDistinct (entries.map boundBy)
  literal : ∀ entry ∈ entries, IsLiteral (bareValue entry.2)
  spelled : ∀ entry ∈ entries, foldCase (dropExport entry.1) = foldCase name → entry.1 = name

namespace IsIndependent

theorem nodup_keys (h : IsIndependent name entries) : entries.keys.Nodup :=
  List.Nodup.of_map _ (isDistinct_boundBy.1 h.distinct)

theorem ofText_eq (h : IsIndependent name entries) (hkept : Kept t entries) : ofText t = entries := by
  unfold ofText
  rw [hkept.filterMap_ofLine?, Keyed.collect_of_nodup h.nodup_keys]

theorem put (h : IsIndependent name entries) (hkey : IsKey name name)
    (hliteral : IsLiteral (bareValue value)) : IsIndependent name (entries.put name value) := by
  have hdrop := hkey.dropExport_eq
  constructor
  · have hdistinct := isDistinct_boundBy.1 h.distinct
    rw [isDistinct_boundBy, Keyed.keys_put]
    split
    next => exact hdistinct
    next hnew =>
      rw [List.map_append, List.map_singleton, hdrop]
      refine hdistinct.append (List.nodup_singleton _) (List.disjoint_singleton.2 fun hmem => ?_)
      obtain ⟨_, hkeys, hfold⟩ := List.mem_map.1 hmem
      obtain ⟨entry, hentry, rfl⟩ := List.mem_map.1 hkeys
      rw [← h.spelled entry hentry hfold] at hnew
      exact hnew (List.contains_iff_mem.2 hkeys)
  · intro entry hentry
    rcases Keyed.mem_put.1 hentry with ⟨hentry, -⟩ | rfl
    · exact h.literal entry hentry
    · exact hliteral
  · intro entry hentry hfold
    rcases Keyed.mem_put.1 hentry with ⟨hentry, -⟩ | rfl
    · exact h.spelled entry hentry hfold
    · rfl

theorem sorted (h : IsIndependent name entries) : IsIndependent name entries.sorted := by
  have hperm : entries.sorted.Perm entries := List.mergeSort_perm _ _
  constructor
  · exact ((hperm.map boundBy).map _).nodup_iff.2 h.distinct
  · exact fun entry hentry => h.literal entry (mem_sorted.1 hentry)
  · exact fun entry hentry => h.spelled entry (mem_sorted.1 hentry)

end IsIndependent

private theorem fileValue_put (environment : Environment) {u : Text}
    (hword : TakesWords setting name)
    (h : IsIndependent name entries) (hvalue : IsAlphanumeric value)
    (ht : Kept t entries) (htmark : dropMark t = t)
    (hu : Kept u (entries.put name value).sorted) (humark : dropMark u = u) :
    fileValue environment u setting = some value ∧
      ∀ x ≠ setting, fileValue environment u x = fileValue environment t x := by
  have hdrop := hword.isKey.dropExport_eq
  have hbare : bareValue value = value := hvalue.isSolid.bareValue
  have hliteral : IsLiteral (bareValue value) := by
    rw [hbare]
    exact isLiteral_of_no_dollar (hvalue.not_mem (by decide))
  have hnew := (h.put hword.isKey hliteral).sorted
  have hread (x : Setting) (v : Text) :=
    fileValue_of_kept environment x v hu humark hnew.distinct hnew.literal
  constructor
  · have hput : (name, value) ∈ entries.put name value := Keyed.mem_put.2 (.inr rfl)
    refine (hread setting value).2 ⟨(name, value), mem_sorted.2 hput, ?_, hbare⟩
    rw [hdrop]
    exact hword.foldCase_name
  · intro x hx
    -- an entry for another setting cannot be the one that is put
    have hother (entry : Text × Text) (hfold : foldCase (dropExport entry.1) = mark ++ x.name) :
        entry.1 ≠ name := by
      intro heq
      rw [heq, hdrop, hword.foldCase_name] at hfold
      exact hx (Setting.eq_of_name_eq (List.append_cancel_left hfold)).symm
    ext v
    rw [hread x v, fileValue_of_kept environment x v ht htmark h.distinct h.literal]
    constructor
    · rintro ⟨entry, hentry, hfold, hv⟩
      rcases Keyed.mem_put.1 (mem_sorted.1 hentry) with ⟨hold, -⟩ | rfl
      · exact ⟨entry, hold, hfold, hv⟩
      · exact absurd rfl (hother _ hfold)
    · rintro ⟨entry, hentry, hfold, hv⟩
      have hput : entry ∈ entries.put name value :=
        Keyed.mem_put.2 (.inl ⟨hentry, hother entry hfold⟩)
      exact ⟨entry, mem_sorted.2 hput, hfold, hv⟩

theorem IsAlphanumeric.isClear (h : IsAlphanumeric value) (hkey : IsKey name name) :
    IsClear (name, value) := by
  constructor
  · rwa [hkey.dropExport_eq]
  · exact Text.isTrimmed_of_forall h.isSolid
  · exact Text.isTrimmed_of_forall fun c hc => decide_eq_false (h.isBare c hc).2.1
  · exact Text.isTrimmed_of_forall fun c hc => decide_eq_false (h.isBare c hc).2.2

/-- The text of a file after a variable was written over a text. -/
def overwritten (t name value : Text) : Text := toText ((ofText t).put name value)

private theorem kept_overwritten (hword : TakesWords setting name) (h : IsIndependent name entries)
    (hvalue : IsAlphanumeric value) (ht : Kept t entries) :
    Kept (overwritten t name value) (entries.put name value).sorted := by
  unfold overwritten
  rw [h.ofText_eq ht]
  refine kept_toText fun entry hentry => ?_
  rcases Keyed.mem_put.1 hentry with ⟨hold, -⟩ | rfl
  · have hread : EnvFile.ReadFrom t entry := readFrom_of_mem_ofText (by rwa [h.ofText_eq ht])
    have hkey : IsOneLine entry.1 := fun c hc => (hread.key_line c hc).2
    exact ⟨ht.isClear entry hold, isOneLine_line hkey fun c hc => (hread.value_line c hc).2⟩
  · have hkey : IsOneLine name := fun c hc => (hword.isPlain c hc).2
    exact ⟨hvalue.isClear hword.isKey, isOneLine_line hkey fun c hc => (hvalue.isPlain c hc).2⟩

theorem exists_unchanged_iff [Machine] (setting : Setting) {files written : Tree}
    {source prior new : Text} {path : Path} {s : Settings}
    (hsource : Location.expandUser environment (Path.ofText source) = .ok path)
    (henvironment : IsUnmarked environment) (hprior : files.readText path = .ok prior)
    (hload : load files environment [source] [] = .ok s) (hfile : written.isFile path = .ok true)
    (hnew : written.readText path = .ok new) :
    (∃ s', load written environment [source] [] = .ok s' ∧ ∀ x ≠ setting, x.get s' = x.get s) ↔
      (∃ v, setting.ofVariable (fileValue environment new setting) = .ok v) ∧
        ∀ x ≠ setting, x.ofVariable (fileValue environment new x) =
          x.ofVariable (fileValue environment prior x) := by
  obtain ⟨octets, _, hholds, -, -⟩ := Tree.readText_eq_ok_iff.1 hprior
  have hbefore := (load_file_iff hsource henvironment hholds.isFile hprior).1 hload
  have hafter {s' : Settings} := load_file_iff (s := s') hsource henvironment hfile hnew
  constructor
  · rintro ⟨s', hload', hsame⟩
    have hvalues := hafter.1 hload'
    refine ⟨⟨setting.get s', hvalues setting⟩, fun x hx => ?_⟩
    rw [hvalues x, hbefore x, hsame x hx]
  · rintro ⟨⟨v, hv⟩, hsame⟩
    have haccepted : ∀ x : Setting, ∃ v, x.ofVariable (fileValue environment new x) = .ok v := by
      intro x
      by_cases hx : x = setting
      · subst hx
        exact ⟨v, hv⟩
      · exact ⟨x.get s, (hsame x hx).trans (hbefore x)⟩
    obtain ⟨s', hload'⟩ := (load_file_ok_iff hsource henvironment hfile hnew).2 haccepted
    refine ⟨s', hload', fun x hx => ?_⟩
    have hvalue := hafter.1 hload' x
    rw [hsame x hx, hbefore x] at hvalue
    exact (Except.ok.inj hvalue).symm

/-- Writing a setting over a file that was accepted. The new file is accepted with the other settings
as they were exactly if it is accepted for the one that was written and its text reads the same for
the others. This is so for every file of kept lines in which the variables are independent, and the
setting that was written is then read from it. -/
theorem others_after_update_iff [Machine] {files : Tree} {source prior : Text} {path : Path}
    {s : Settings} (hword : TakesWords setting name)
    (hsource : Location.expandUser environment (Path.ofText source) = .ok path)
    (henvironment : IsUnmarked environment) (hprior : files.readText path = .ok prior)
    (hload : load files environment [source] [] = .ok s) (hvalue : IsAlphanumeric value)
    (hne : value ≠ []) :
    ∃ written, update files path [(name, some value)] = (written, .ok ()) ∧
      ((∃ s', load written environment [source] [] = .ok s' ∧ ∀ x ≠ setting, x.get s' = x.get s) ↔
        (∃ v, setting.ofVariable (fileValue environment (overwritten prior name value) setting) =
            .ok v) ∧
          ∀ x ≠ setting, x.ofVariable (fileValue environment (overwritten prior name value) x) =
            x.ofVariable (fileValue environment prior x)) ∧
      ∀ entries, Kept prior entries → dropMark prior = prior → IsIndependent name entries →
        ∃ s', load written environment [source] [] = .ok s' ∧
          setting.ofVariable (some value) = .ok (setting.get s') ∧
          ∀ x ≠ setting, x.get s' = x.get s := by
  have hplain : ∀ entry ∈ assigned [(name, some value)], IsPlain entry.1 ∧ IsPlain entry.2 := by
    intro entry hentry
    rw [List.mem_singleton.1 hentry]
    exact ⟨hword.isPlain, hvalue.isPlain⟩
  obtain ⟨written, hupdate, hnew, hfile⟩ := update_eq_ok hprior hplain
  change written.readText path = .ok (overwritten prior name value) at hnew
  have hunchanged := exists_unchanged_iff setting hsource henvironment hprior hload hfile hnew
  refine ⟨written, hupdate, hunchanged, fun entries hkept hmark hindependent => ?_⟩
  have hrewritten := kept_overwritten hword hindependent hvalue hkept
  obtain ⟨hown, hothers⟩ := fileValue_put environment hword hindependent hvalue hkept hmark
    hrewritten (dropMark_toText _)
  have haccepted : ∃ v, setting.ofVariable
      (fileValue environment (overwritten prior name value) setting) = .ok v := by
    rw [hown]
    exact hword.ofVariable hvalue hne
  obtain ⟨s', hload', hsame⟩ :=
    hunchanged.2 ⟨haccepted, fun x hx => congrArg x.ofVariable (hothers x hx)⟩
  refine ⟨s', hload', ?_, hsame⟩
  rw [← hown]
  exact (load_file_iff hsource henvironment hfile hnew).1 hload' setting

/-! Two files with a key in quotation marks -/

def fileWith (t : Text) : Tree := Tree.empty.place (Path.ofText "u.env") (.file (Utf8.encodeWide t))

theorem exists_load_of_key [Machine] (hread : (fileWith t).readText (Path.ofText "u.env") = .ok t)
    (hne : value ≠ []) (h : ∀ (x : Setting) (v : Text),
      fileValue [] t x = some v ↔ foldCase keyName = mark ++ x.name ∧ value = v) :
    ∃ s, load (fileWith t) [] ["u.env"] [] = .ok s := by
  have hsource : Location.expandUser [] (Path.ofText "u.env") = .ok (Path.ofText "u.env") := rfl
  have hothers : ∀ x ≠ Setting.key, fileValue [] t x = none := fun x hx =>
    fileValue_eq_none hx fun v hv => ((h x v).1 hv).1
  obtain ⟨octets, _, hholds, -, -⟩ := Tree.readText_eq_ok_iff.1 hread
  have hkey := exists_key_iff hsource (by decide) hholds.isFile hread hne hothers
  obtain ⟨s, hs, -⟩ := hkey.2 ((h .key value).2 ⟨foldCase_keyName, rfl⟩)
  exact ⟨s, hs⟩

def signedKey : Text := "my secret #1"

def shortenedKey : Text := "my secret"

def signedKeyText : Text := "SAKURA_KEY=\"my secret #1\"\n"

theorem fileValue_signedKeyText (x : Setting) (v : Text) :
    fileValue [] signedKeyText x = some v ↔ foldCase keyName = mark ++ x.name ∧ signedKey = v := by
  have hfront : signedKeyText.dropWhile CodePoint.isBlank = signedKeyText := by decide +kernel
  have hnext : nextBinding signedKeyText = (some (keyName, some signedKey), []) := by decide +kernel
  have hbindings : bindings (dropMark signedKeyText) = [(keyName, some signedKey)] := by
    have hcons := bindings_of_cons hfront
    change bindings signedKeyText = (nextBinding signedKeyText).1.toList ++
      bindings (nextBinding signedKeyText).2 at hcons
    rw [hnext, bindings_nil] at hcons
    exact hcons
  rw [fileValue_of_singleton hbindings, interpolate_of_no_dollar (by decide)]

private theorem fileValue_overwritten_signedKeyText :
    fileValue [] (overwritten signedKeyText nodeTypeName "Trojan") .key = some shortenedKey := by
  let key : Text × Text := (keyName, signedKey)
  let nodeType : Text × Text := (nodeTypeName, "Trojan")
  have hentries : (ofText signedKeyText).put nodeTypeName "Trojan" = [key, nodeType] := by
    decide +kernel
  have hsorted : Keyed.sorted [key, nodeType] = [key, nodeType] := by
    rw [sorted_pair]
    decide +kernel
  have hlines : [key, nodeType].filterMap (fun entry => bindingOfLine? (line entry)) =
      [(keyName, some shortenedKey), (nodeType.1, some nodeType.2)] := by decide +kernel
  have hbindings : bindings (dropMark (overwritten signedKeyText nodeTypeName "Trojan")) =
      [(keyName, some shortenedKey), (nodeType.1, some nodeType.2)] := by
    unfold overwritten
    rw [hentries, bindings_toText (by decide), hsorted, hlines]
  refine (fileValue_eq_some_iff ?_).2 ⟨[], keyName, shortenedKey, _, hbindings, by decide, ?_⟩
  · rw [hbindings]
    exact List.nodup_iff_pairwise_ne.2 (by decide)
  · exact interpolate_of_no_dollar (by decide)

def plainKey : Text × Text := ("export SAKURA_KEY", "abc")

def plainKeyText : Text := "export SAKURA_KEY = 'abc' \n"

theorem kept_plainKeyText : Kept plainKeyText [plainKey] := by
  let g : Spacing := ⟨[], " ", " ", " ", by decide, by decide, by decide, by decide⟩
  have hkey : IsKey plainKey.1 keyName :=
    @IsKey.exported " " _ (by decide) (by decide) isName_keyName
  have hclear : IsClear plainKey :=
    ⟨hkey.dropExport_eq.symm ▸ hkey, ⟨rfl, rfl⟩, ⟨rfl, rfl⟩, ⟨rfl, rfl⟩⟩
  have hsolid : IsSolid plainKey.2 := by decide
  have hline : KeptLine "export SAKURA_KEY = 'abc' " (some plainKey) :=
    @KeptLine.inQuotes plainKey '\'' g hclear (.inl rfl) (by decide) (by decide) hsolid.isUncommented
  exact .line hline (by decide) (.last (.blank isGap_nil) (by decide))

theorem isIndependent_plainKey : IsIndependent nodeTypeName [plainKey] := by
  have hsolid : IsSolid plainKey.2 := by decide
  constructor
  · exact List.nodup_singleton _
  · intro entry hentry
    rw [List.mem_singleton.1 hentry, hsolid.bareValue]
    exact isLiteral_of_no_dollar (by decide)
  · decide +kernel

private theorem fileValue_plainKeyText (x : Setting) (v : Text) :
    fileValue [] plainKeyText x = some v ↔ foldCase keyName = mark ++ x.name ∧ plainKey.2 = v := by
  have hname : dropExport plainKey.1 = keyName := by decide +kernel
  have hsolid : IsSolid plainKey.2 := by decide
  rw [fileValue_of_kept [] x v kept_plainKeyText rfl isIndependent_plainKey.distinct
    isIndependent_plainKey.literal]
  simp [hname, hsolid.bareValue]

attribute [local instance] Machine.usual

/-- Writing the type of the node takes the quotation marks away from a key. One with a number sign
behind a blank is shortened by that; one of letters stays, in a line with `export` and with blanks. -/
theorem others_after_update_of_quoted_key :
    (∃ s, load (fileWith signedKeyText) [] ["u.env"] [] = .ok s ∧
      ∃ written, update (fileWith signedKeyText) (Path.ofText "u.env")
          [(nodeTypeName, some "Trojan")] = (written, .ok ()) ∧
        ¬ ∃ s', load written [] ["u.env"] [] = .ok s' ∧
          ∀ x ≠ Setting.nodeType, x.get s' = x.get s) ∧
    ∃ s, load (fileWith plainKeyText) [] ["u.env"] [] = .ok s ∧
      ∃ written, update (fileWith plainKeyText) (Path.ofText "u.env")
          [(nodeTypeName, some "Trojan")] = (written, .ok ()) ∧
        ∃ s', load written [] ["u.env"] [] = .ok s' ∧
          ∀ x ≠ Setting.nodeType, x.get s' = x.get s := by
  constructor
  · obtain ⟨s, hload⟩ := exists_load_of_key rfl (by decide) fileValue_signedKeyText
    obtain ⟨written, hupdate, hiff, -⟩ := @others_after_update_iff [] nodeTypeName "Trojan"
      .nodeType _ (fileWith signedKeyText) "u.env" signedKeyText (Path.ofText "u.env") s .nodeType rfl
      (by decide) rfl hload (by decide) (by decide)
    refine ⟨s, hload, written, hupdate, fun h => ?_⟩
    have hsame := (hiff.1 h).2 .key (by decide)
    rw [fileValue_overwritten_signedKeyText, (fileValue_signedKeyText .key signedKey).2
      ⟨foldCase_keyName, rfl⟩] at hsame
    exact absurd (Except.ok.inj hsame) (by decide)
  · obtain ⟨s, hload⟩ := exists_load_of_key rfl (by decide) fileValue_plainKeyText
    obtain ⟨written, hupdate, -, hkept⟩ := @others_after_update_iff [] nodeTypeName "Trojan"
      .nodeType _ (fileWith plainKeyText) "u.env" plainKeyText (Path.ofText "u.env") s .nodeType rfl
      (by decide) rfl hload (by decide) (by decide)
    obtain ⟨s', hload', -, hsame⟩ := hkept _ kept_plainKeyText rfl isIndependent_plainKey
    exact ⟨s, hload, written, hupdate, s', hload', hsame⟩

end NodePanel.Settings
