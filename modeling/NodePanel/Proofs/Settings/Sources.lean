import Mathlib.Data.List.Nodup
import NodePanel.Proofs.EnvFile.Plain
import NodePanel.Proofs.Settings.Given
import NodePanel.Proofs.Settings.Host

/-!
Settings of several sources. Each setting is read by itself, from the first source that assigns it: the
caller, the environment, the file of the user, the file of the project. What the sources behind that
one say, and what is said of other settings, changes nothing.
-/
namespace NodePanel.Settings

open EnvFile

inductive Source where
  | caller
  | environment
  | userFile
  | projectFile
deriving DecidableEq

namespace Source

def rank : Source → Nat
  | caller => 0
  | environment => 1
  | userFile => 2
  | projectFile => 3

def nameOf : Source → Setting → Text
  | caller, x => x.name
  | _, x => mark ++ x.name

end Source

def lastOf (name : Text) (assigned : List (Text × α)) : Option α :=
  (assigned.reverse.find? (foldCase ·.1 == name)).map Prod.snd

theorem lastOf_eq_some_iff {name : Text} {assigned : List (Text × α)} {a : α} :
    lastOf name assigned = some a ↔ ∃ before spelled after,
      assigned = before ++ (spelled, a) :: after ∧ foldCase spelled = name ∧
        ∀ e ∈ after, foldCase e.1 ≠ name := by
  unfold lastOf
  rw [Option.map_eq_some_iff]
  constructor
  · rintro ⟨⟨spelled, a⟩, hfind, rfl⟩
    obtain ⟨hname, after, before, hsplit, hafter⟩ := List.find?_eq_some_iff_append.1 hfind
    refine ⟨before.reverse, spelled, after.reverse, ?_, beq_iff_eq.1 hname, fun e he => ?_⟩
    · rw [← List.reverse_reverse assigned, hsplit]
      simp
    · simpa using hafter e (List.mem_reverse.1 he)
  · rintro ⟨before, spelled, after, rfl, hname, hafter⟩
    refine ⟨(spelled, a), List.find?_eq_some_iff_append.2 ⟨beq_iff_eq.2 hname, after.reverse,
      before.reverse, by simp, fun e he => ?_⟩, rfl⟩
    simpa using hafter e (List.mem_reverse.1 he)

theorem lastOf_eq_none_iff {name : Text} {assigned : List (Text × α)} :
    lastOf name assigned = none ↔ ∀ e ∈ assigned, foldCase e.1 ≠ name := by
  simp [lastOf, List.find?_eq_none]

private theorem lastOf_map {α β : Type} (f : α → β) (name : Text) (assigned : List (Text × α)) :
    lastOf name (assigned.map fun e => (e.1, f e.2)) = (lastOf name assigned).map f := by
  unfold lastOf
  rw [← List.map_reverse, List.find?_map, Option.map_map, Option.map_map]
  rfl

def IsSpelledOnce (name : Text) (assigned : List (Text × α)) : Prop :=
  ∀ e ∈ assigned, ∀ e' ∈ assigned, foldCase e.1 = name → foldCase e'.1 = name → e.1 = e'.1

theorem isSpelledOnce_of_nodup {assigned : List (Text × α)}
    (h : (assigned.map fun e => foldCase e.1).Nodup) (name : Text) : IsSpelledOnce name assigned :=
  fun _ he _ he' hname hname' =>
    congrArg Prod.fst (List.inj_on_of_nodup_map h he he' (hname.trans hname'.symm))

private theorem get?_foldKeys_eq_lastOf {name : Text} {given : Keyed α} (hnodup : given.keys.Nodup)
    (honce : IsSpelledOnce name given) : Keyed.get? (foldKeys given) name = lastOf name given := by
  rw [get?_foldKeys]
  cases hfind : given.find? (foldCase ·.1 == name) with
  | none =>
    refine (lastOf_eq_none_iff.2 fun e he hname => ?_).symm
    exact List.find?_eq_none.1 hfind e he (beq_iff_eq.2 hname)
  | some e =>
    have hmem := List.mem_of_find?_eq_some hfind
    have hname : foldCase e.1 = name := by simpa using List.find?_some hfind
    cases hlast : lastOf name given with
    | none => exact absurd hname (lastOf_eq_none_iff.1 hlast e hmem)
    | some a =>
      obtain ⟨before, spelled, after, rfl, hname', -⟩ := lastOf_eq_some_iff.1 hlast
      have hmem' : (spelled, a) ∈ before ++ (spelled, a) :: after := by simp
      have hsame := List.inj_on_of_nodup_map hnodup hmem hmem' (honce e hmem _ hmem' hname hname')
      exact congrArg (some ∘ Prod.snd) hsame

/-- Of assignments in one spelling that name no variables the last one counts, as it is written. -/
theorem get?_folded_resolve {name : Text} {assigned : List (Text × Text)}
    (environment : Environment) (hliteral : ∀ e ∈ assigned, IsLiteral e.2)
    (honce : IsSpelledOnce name assigned) :
    (folded (resolve environment (assigned.map bindingOf))).get? name =
      (lastOf name assigned).map some := by
  cases hlast : lastOf name assigned with
  | none =>
    refine (get?_folded_resolve_eq_none_iff ..).2 (List.forall_mem_map.2 fun e he => ?_)
    exact lastOf_eq_none_iff.1 hlast e he
  | some v =>
    obtain ⟨before, spelled, after, rfl, hname, hafter⟩ := lastOf_eq_some_iff.1 hlast
    have hmem : (spelled, v) ∈ before ++ (spelled, v) :: after := by simp
    refine (get?_folded_resolve_iff ..).2 ⟨before.map bindingOf, bindingOf (spelled, v),
      after.map bindingOf, by simp, decides_of_last hname ?_ ?_, ?_⟩
    · rw [← List.map_append]
      refine List.forall_mem_map.2 fun e he hname' => honce e ?_ _ hmem hname' hname
      exact (List.perm_middle.mem_iff).2 (List.mem_cons_of_mem _ he)
    · intro hlater
      rw [List.map_map] at hlater
      obtain ⟨e, he, heq⟩ := List.mem_map.1 hlater
      exact hafter e he ((congrArg foldCase heq).trans hname)
    · exact congrArg some (interpolate_of_isLiteral (hliteral _ hmem))

/-! Files -/

/-- What a file of settings assigns. One that is not there assigns nothing. -/
inductive FileAssigns [Machine] (files : Tree) (environment : Environment) (source : Text) :
    List (Text × Text) → Prop where
  | absent {path : Path} (hsource : Location.expandUser environment (Path.ofText source) = .ok path)
      (hfile : files.isFile path = .ok false) : FileAssigns files environment source []
  | present {path : Path} {t : Text} {assigned : List (Text × Text)}
      (hsource : Location.expandUser environment (Path.ofText source) = .ok path)
      (hfile : files.isFile path = .ok true) (hread : files.readText path = .ok t)
      (ht : PlainText (dropMark t) assigned) : FileAssigns files environment source assigned

theorem FileAssigns.isLiteral [Machine] {files : Tree} {environment : Environment} {source : Text}
    {assigned : List (Text × Text)} (h : FileAssigns files environment source assigned) :
    ∀ e ∈ assigned, IsLiteral e.2 := by
  cases h with
  | absent => exact List.forall_mem_nil _
  | present _ _ _ ht => exact ht.isLiteral

theorem FileAssigns.fileVariables [Machine] {files : Tree} {environment : Environment}
    {source : Text}
    {assigned : List (Text × Text)} (h : FileAssigns files environment source assigned)
    (paths : List Text) (found : Keyed (Option Text)) :
    fileVariables files environment (source :: paths) found =
      fileVariables files environment paths
        (found.putAll (folded (resolve environment (assigned.map bindingOf)))) := by
  cases h with
  | absent hsource hfile => exact fileVariables_cons_of_absent hsource hfile paths found
  | present hsource hfile hread ht =>
    rw [fileVariables_cons hsource hfile hread, bindingsOfText, ht.bindings]

/-! All sources -/

structure Sources where
  given : Keyed Given
  environment : Environment
  files : Tree
  userPath : Text
  projectPath : Text
  userFile : List (Text × Text)
  projectFile : List (Text × Text)

namespace Sources

def ofTexts (assigned : List (Text × Text)) : List (Text × Given) :=
  assigned.map fun e => (e.1, .data (.str e.2))

def assignments (a : Sources) : Source → List (Text × Given)
  | .caller => a.given
  | .environment => ofTexts a.environment
  | .userFile => ofTexts a.userFile
  | .projectFile => ofTexts a.projectFile

/-- A source assigns a value to a setting, and no other behind it. -/
def Assigns (a : Sources) (source : Source) (x : Setting) (g : Given) : Prop :=
  ∃ before spelled after, a.assignments source = before ++ (spelled, g) :: after ∧
    foldCase spelled = source.nameOf x ∧ ∀ e ∈ after, foldCase e.1 ≠ source.nameOf x

/-- No source that counts more assigns the setting. -/
def IsReached (a : Sources) (source : Source) (x : Setting) : Prop :=
  ∀ earlier : Source, earlier.rank < source.rank → ∀ g, ¬ a.Assigns earlier x g

/-- The files are plain, and no source has a setting in two spellings. -/
structure IsPlain [Machine] (a : Sources) : Prop where
  nodup_given : a.given.keys.Nodup
  isSpelledOnce : ∀ (source : Source) (x : Setting),
    IsSpelledOnce (source.nameOf x) (a.assignments source)
  userFile : FileAssigns a.files a.environment a.userPath a.userFile
  projectFile : FileAssigns a.files a.environment a.projectPath a.projectFile

def load [Machine] (a : Sources) : Except SettingsError Settings :=
  loadGiven a.files a.environment [a.projectPath, a.userPath] a.given

def find (a : Sources) (source : Source) (x : Setting) : Option Given :=
  lastOf (source.nameOf x) (a.assignments source)

def value? (a : Sources) (x : Setting) : Option Given :=
  (a.find .caller x).or ((a.find .environment x).or ((a.find .userFile x).or (a.find .projectFile x)))

variable {a b : Sources} {s s' : Settings} {source : Source} {x : Setting} {g : Given}
  {assigned : List (Text × Text)}

theorem find_eq_some_iff : a.find source x = some g ↔ a.Assigns source x g := lastOf_eq_some_iff

theorem find_eq_none_iff : a.find source x = none ↔ ∀ g, ¬ a.Assigns source x g := by
  simp only [Option.eq_none_iff_forall_ne_some, Ne, find_eq_some_iff]

theorem find_ofTexts (h : a.assignments source = ofTexts assigned) :
    a.find source x = (lastOf (source.nameOf x) assigned).map fun t => .data (.str t) := by
  unfold find
  rw [h]
  exact lastOf_map (fun t => Given.data (.str t)) _ assigned

theorem isSpelledOnce_of_ofTexts {name : Text} (h : IsSpelledOnce name (ofTexts assigned)) :
    IsSpelledOnce name assigned := fun _ he _ he' =>
  h _ (List.mem_map_of_mem he) _ (List.mem_map_of_mem he')

private theorem exists_found [Machine] (h : a.IsPlain) :
    ∃ found, fileVariables a.files a.environment [a.projectPath, a.userPath] [] = .ok found ∧
      ∀ x : Setting, (found.get? (mark ++ x.name)).join =
        (lastOf (mark ++ x.name) a.userFile).or (lastOf (mark ++ x.name) a.projectFile) := by
  rw [h.projectFile.fileVariables, h.userFile.fileVariables]
  refine ⟨_, rfl, fun x => ?_⟩
  have huser : IsSpelledOnce (mark ++ x.name) a.userFile :=
    isSpelledOnce_of_ofTexts (h.isSpelledOnce .userFile x)
  have hproject : IsSpelledOnce (mark ++ x.name) a.projectFile :=
    isSpelledOnce_of_ofTexts (h.isSpelledOnce .projectFile x)
  rw [get?_putAll_folded, get?_putAll_folded,
    get?_folded_resolve a.environment h.userFile.isLiteral huser,
    get?_folded_resolve a.environment h.projectFile.isLiteral hproject]
  cases lastOf (mark ++ x.name) a.userFile with
  | some v => rfl
  | none => cases lastOf (mark ++ x.name) a.projectFile <;> rfl

private theorem givenOf?_eq_value? [Machine] (h : a.IsPlain) {found : Keyed (Option Text)}
    (hfound : (found.get? (mark ++ x.name)).join =
      (lastOf (mark ++ x.name) a.userFile).or (lastOf (mark ++ x.name) a.projectFile)) :
    givenOf? a.given a.environment found x = a.value? x := by
  have hcaller : Keyed.get? (foldKeys a.given) x.name = a.find .caller x :=
    get?_foldKeys_eq_lastOf h.nodup_given (h.isSpelledOnce .caller x)
  have henvironment : (folded a.environment).get? (mark ++ x.name) =
      lastOf (mark ++ x.name) a.environment := get?_folded ..
  have htexts : a.find .environment x = _ ∧ a.find .userFile x = _ ∧ a.find .projectFile x = _ :=
    ⟨find_ofTexts rfl, find_ofTexts rfl, find_ofTexts rfl⟩
  obtain ⟨hfindEnvironment, hfindUser, hfindProject⟩ := htexts
  unfold givenOf? value?
  rw [hcaller, henvironment, hfound, hfindEnvironment, hfindUser, hfindProject, Option.map_or,
    Option.map_or]
  rfl

theorem load_eq_ok_iff [Machine] (h : a.IsPlain) :
    a.load = .ok s ↔ ∀ x : Setting, x.ofGiven (a.value? x) = .ok (x.get s) := by
  obtain ⟨found, hfound, hget⟩ := exists_found h
  unfold load
  rw [loadGiven_eq_ok_iff, hfound]
  simp only [Except.ok.injEq, exists_eq_left', givenOf?_eq_value? h (hget _)]

theorem isReached_iff : a.IsReached source x ↔
    ∀ earlier : Source, earlier.rank < source.rank → a.find earlier x = none := by
  simp only [IsReached, find_eq_none_iff]

theorem value?_of_reached (hreached : a.IsReached source x) (hassigns : a.Assigns source x g) :
    a.value? x = some g := by
  have hearlier := isReached_iff.1 hreached
  have hfind := find_eq_some_iff.2 hassigns
  unfold value?
  cases source with
  | caller => rw [hfind, Option.some_or]
  | environment => rw [hearlier .caller (by decide), hfind, Option.none_or, Option.some_or]
  | userFile =>
    rw [hearlier .caller (by decide), hearlier .environment (by decide), hfind, Option.none_or,
      Option.none_or, Option.some_or]
  | projectFile =>
    rw [hearlier .caller (by decide), hearlier .environment (by decide),
      hearlier .userFile (by decide), hfind, Option.none_or, Option.none_or, Option.none_or]

theorem value?_of_unassigned (h : ∀ source g, ¬ a.Assigns source x g) : a.value? x = none := by
  have hnone (source : Source) : a.find source x = none := find_eq_none_iff.2 (h source)
  simp only [value?, hnone, Option.or_none]

theorem IsReached.earlier {earlier : Source} (h : a.IsReached source x)
    (hlt : earlier.rank < source.rank) : a.IsReached earlier x := fun first hfirst =>
  h first (hfirst.trans hlt)

private theorem exists_reached (h : a.Assigns source x g) :
    ∃ source g, a.IsReached source x ∧ a.Assigns source x g := by
  induction hrank : source.rank using Nat.strong_induction_on generalizing source g with
  | _ n ih =>
    by_cases hreached : a.IsReached source x
    · exact ⟨source, g, hreached, h⟩
    · unfold IsReached at hreached
      push Not at hreached
      obtain ⟨earlier, hlt, g', hassigns⟩ := hreached
      exact ih earlier.rank (hrank ▸ hlt) hassigns rfl

/-- What a setting is read from depends on what is assigned to it up to the first source that does. -/
theorem value?_congr
    (h : ∀ source g, a.IsReached source x → (b.Assigns source x g ↔ a.Assigns source x g)) :
    b.value? x = a.value? x := by
  by_cases hsome : ∃ source g, a.Assigns source x g
  · obtain ⟨source, g, hassigns⟩ := hsome
    obtain ⟨source, g, hreached, hassigns⟩ := exists_reached hassigns
    have hreached' : b.IsReached source x := fun earlier hlt g' hassigns' =>
      hreached earlier hlt g' ((h earlier g' (hreached.earlier hlt)).1 hassigns')
    rw [value?_of_reached hreached hassigns,
      value?_of_reached hreached' ((h source g hreached).2 hassigns)]
  · have hnone : ∀ source g, ¬ a.Assigns source x g := fun source g hassigns =>
      hsome ⟨source, g, hassigns⟩
    have hnone' : ∀ source g, ¬ b.Assigns source x g := fun source g hassigns =>
      hnone source g ((h source g fun earlier _ => hnone earlier).1 hassigns)
    rw [value?_of_unassigned hnone, value?_of_unassigned hnone']

/-- Every setting is what is read of the value that the first source assigns to it, and its default if
none does. As long as settings are accepted, it stays the same whatever the sources behind that one
assign to it and whatever any source assigns to other settings. -/
theorem get_of_first_source [Machine] (h : a.IsPlain) (hload : a.load = .ok s) (x : Setting) :
    (∀ source g, a.IsReached source x → a.Assigns source x g → x.readGiven g = .ok (x.get s)) ∧
    ((∀ source g, ¬ a.Assigns source x g) → x.get s = x.default) ∧
    ∀ (b : Sources) (s' : Settings), b.IsPlain → b.load = .ok s' →
      (∀ source g, a.IsReached source x → (b.Assigns source x g ↔ a.Assigns source x g)) →
      x.get s' = x.get s := by
  have hread := (load_eq_ok_iff h).1 hload x
  refine ⟨fun source g hreached hassigns => ?_, fun hnone => ?_, fun b s' hb hload' hagree => ?_⟩
  · rwa [value?_of_reached hreached hassigns] at hread
  · rw [value?_of_unassigned hnone] at hread
    exact (Except.ok.inj hread).symm
  · have hread' := (load_eq_ok_iff hb).1 hload' x
    rw [value?_congr hagree, hread] at hread'
    exact (Except.ok.inj hread').symm

/-! Sources that overlap -/

attribute [local instance] Machine.usual

def userText : Text := "SAKURA_KEY=u\nsakura_node_type=Trojan\n"

def projectText : Text := "# for tests\nSAKURA_NODE_TYPE = V2ray # old\n\nOTHER=1"

def overlapping : Sources where
  given := [("NODE_ID", .data (.int 7))]
  environment := [("Sakura_Key", "e"), ("SAKURA_NODE_ID", "5")]
  files := (Tree.empty.place (Path.ofText ".env") (.file (Utf8.encodeWide projectText))).place
    (Path.ofText "u.env") (.file (Utf8.encodeWide userText))
  userPath := "u.env"
  projectPath := ".env"
  userFile := [("SAKURA_KEY", "u"), ("sakura_node_type", "Trojan")]
  projectFile := [("SAKURA_NODE_TYPE", "V2ray"), ("OTHER", "1")]

/-- The caller speaks of something else, and there is no file of the project. -/
def withoutProject : Sources :=
  { overlapping with
    given := [("device_limit", .data (.int 2))]
    files := Tree.empty.place (Path.ofText "u.env") (.file (Utf8.encodeWide userText))
    projectFile := [] }

theorem plainText_user : PlainText userText overlapping.userFile := by
  have hkey : IsName "SAKURA_KEY" := ⟨by decide, by decide, by decide⟩
  have htype : IsName "sakura_node_type" := ⟨by decide, by decide, by decide⟩
  have hu : IsSolid "u" := by decide
  have htrojan : IsSolid "Trojan" := by decide
  have hfirst : PlainLine "SAKURA_KEY=u" (some ("SAKURA_KEY", "u")) :=
    .assignment .none (.plain hkey (by decide)) (hu.isPlainValue (by decide) (by decide)) (.inl rfl)
  have hsecond : PlainLine "sakura_node_type=Trojan" (some ("sakura_node_type", "Trojan")) :=
    .assignment .none (.plain htype (by decide)) (htrojan.isPlainValue (by decide) (by decide))
      (.inl rfl)
  exact .line hfirst (by decide) (.line hsecond (by decide) (.last (.blank isGap_nil) (by decide)))

private theorem plainText_project : PlainText projectText overlapping.projectFile := by
  have htype : IsName "SAKURA_NODE_TYPE" := ⟨by decide, by decide, by decide⟩
  have hother : IsName "OTHER" := ⟨by decide, by decide, by decide⟩
  have hv2ray : IsSolid "V2ray" := by decide
  have hone : IsSolid "1" := by decide
  let g : Spacing := ⟨[], " ", " ", [], by decide, by decide, by decide, by decide⟩
  have hcomment : PlainLine "# for tests" none := .comment " for tests" isGap_nil
  have hfirst : PlainLine "SAKURA_NODE_TYPE = V2ray # old" (some ("SAKURA_NODE_TYPE", "V2ray")) :=
    @PlainLine.commented _ _ _ " " " old" g (.plain htype (by decide))
      (hv2ray.isPlainValue (by decide) (by decide)) (.inr (by decide)) (by decide) (by decide)
  have hsecond : PlainLine "OTHER=1" (some ("OTHER", "1")) :=
    .assignment .none (.plain hother (by decide)) (hone.isPlainValue (by decide) (by decide)) (.inl rfl)
  exact .line hcomment (by decide) (.line hfirst (by decide)
    (.line (.blank isGap_nil) (by decide) (.last hsecond (by decide))))

theorem isPlain_overlapping : overlapping.IsPlain where
  nodup_given := by decide
  isSpelledOnce source x := isSpelledOnce_of_nodup (by cases source <;> decide +kernel) _
  userFile := @FileAssigns.present _ _ _ _ (Path.ofText "u.env") userText _ rfl (by decide)
    (by decide +kernel) plainText_user
  projectFile := @FileAssigns.present _ _ _ _ (Path.ofText ".env") projectText _ rfl (by decide)
    (by decide +kernel) plainText_project

theorem isPlain_withoutProject : withoutProject.IsPlain where
  nodup_given := by decide
  isSpelledOnce source x := isSpelledOnce_of_nodup (by cases source <;> decide +kernel) _
  userFile := @FileAssigns.present _ _ _ _ (Path.ofText "u.env") userText _ rfl (by decide)
    (by decide +kernel) plainText_user
  projectFile := @FileAssigns.absent _ _ _ _ (Path.ofText ".env") rfl (by decide)

def overlappingSettings : Settings :=
  { ofHost defaultHost with key := "e", nodeId := 7, nodeType := "Trojan" }

theorem load_overlapping : overlapping.load = .ok overlappingSettings :=
  (load_eq_ok_iff isPlain_overlapping).2 fun x => by cases x <;> decide +kernel

def settingsWithoutProject : Settings :=
  { ofHost defaultHost with key := "e", nodeId := 5, nodeType := "Trojan", deviceLimit := 2 }

theorem load_withoutProject : withoutProject.load = .ok settingsWithoutProject :=
  (load_eq_ok_iff isPlain_withoutProject).2 fun x => by cases x <;> decide +kernel

/-- Each source decides where those before it are silent. Without the file of the project, which was
overruled, the type of the node is the same. -/
theorem get_of_overlapping_sources :
    ∃ s s', overlapping.load = .ok s ∧ withoutProject.load = .ok s' ∧
      s.nodeId = 7 ∧ s.key = "e" ∧ s.nodeType = "Trojan" ∧ s.deviceLimit = 0 ∧
      s'.nodeId = 5 ∧ s'.nodeType = s.nodeType := by
  have hget {a : Sources} {s : Settings} {g : Given} (ha : a.IsPlain) (hload : a.load = .ok s)
      (x : Setting) {v : x.Value} (source : Source)
      (hearlier : ∀ earlier : Source, earlier.rank < source.rank → a.find earlier x = none)
      (hfind : a.find source x = some g) (hread : x.readGiven g = .ok v) : x.get s = v := by
    obtain ⟨hfirst, -⟩ := get_of_first_source ha hload x
    have hvalue := hfirst source g (isReached_iff.2 hearlier) (find_eq_some_iff.1 hfind)
    exact Except.ok.inj (hvalue.symm.trans hread)
  have hsilent : ∀ earlier : Source, earlier.rank < Source.userFile.rank →
      overlapping.find earlier .nodeType = none := by
    intro earlier hlt
    cases earlier <;> first | rfl | exact absurd hlt (by decide)
  have htype : overlapping.find .userFile .nodeType = some (.data (.str "Trojan")) := rfl
  obtain ⟨-, -, hsame⟩ := get_of_first_source isPlain_overlapping load_overlapping .nodeType
  obtain ⟨-, hdefault, -⟩ := get_of_first_source isPlain_overlapping load_overlapping .deviceLimit
  refine ⟨_, _, load_overlapping, load_withoutProject, ?_, ?_, ?_, ?_, ?_, ?_⟩
  · exact hget isPlain_overlapping load_overlapping .nodeId .caller nofun rfl rfl
  · refine hget isPlain_overlapping load_overlapping .key .environment (fun earlier hlt => ?_) rfl rfl
    cases earlier <;> first | rfl | exact absurd hlt (by decide)
  · exact hget isPlain_overlapping load_overlapping .nodeType .userFile hsilent htype rfl
  · refine hdefault fun source => find_eq_none_iff.1 ?_
    cases source <;> rfl
  · refine hget isPlain_withoutProject load_withoutProject .nodeId .environment
      (fun earlier hlt => ?_) rfl (by decide +kernel)
    cases earlier <;> first | rfl | exact absurd hlt (by decide)
  · refine hsame _ _ isPlain_withoutProject load_withoutProject fun source g hreached => ?_
    rw [← find_eq_some_iff, ← find_eq_some_iff]
    cases source with
    | projectFile => exact absurd (find_eq_some_iff.1 htype) (hreached .userFile (by decide) _)
    | _ => exact Iff.rfl

end Sources

end NodePanel.Settings
