import NodePanel.Proofs.Settings.Variables

/-!
Settings one by one. With one file as the only source every setting is read on its own, from what
the file binds its variable to, so two files give a setting the same value if they bind its variable
to the same.
-/
namespace NodePanel.Settings

open Checked Coercion EnvFile

inductive Setting where
  | apiHost
  | key
  | nodeId
  | nodeType
  | timeoutSeconds
  | retryCount
  | speedLimit
  | deviceLimit
  | ruleListPath
  | enableVless
  | enableXtls
deriving DecidableEq

namespace Setting

def name : Setting → Text
  | apiHost => "api_host"
  | key => "key"
  | nodeId => "node_id"
  | nodeType => "node_type"
  | timeoutSeconds => "timeout_seconds"
  | retryCount => "retry_count"
  | speedLimit => "speed_limit"
  | deviceLimit => "device_limit"
  | ruleListPath => "rule_list_path"
  | enableVless => "enable_vless"
  | enableXtls => "enable_xtls"

@[reducible]
def Value : Setting → Type
  | apiHost | key | nodeType => Text
  | nodeId | retryCount | deviceLimit => Nat
  | timeoutSeconds | speedLimit => Binary64
  | ruleListPath => Option Path
  | enableVless | enableXtls => Bool

def default : (x : Setting) → x.Value
  | apiHost => defaultHost
  | key => []
  | nodeId => (1 : Nat)
  | nodeType => defaultType
  | timeoutSeconds => defaultTimeout
  | retryCount => defaultRetries
  | speedLimit => Binary64.zero
  | deviceLimit => (0 : Nat)
  | ruleListPath => none
  | enableVless => false
  | enableXtls => false

def read : (x : Setting) → Json → Except FaultKind x.Value
  | apiHost => readHost
  | key => readText
  | nodeId => readNat
  | nodeType => fun v => readText v >>= nonempty
  | timeoutSeconds => readTimeout
  | retryCount => readRetries
  | speedLimit => fun v => readFloat v >>= nonneg
  | deviceLimit => readNat
  | ruleListPath => readPath
  | enableVless => readBool
  | enableXtls => readBool

def get (s : Settings) : (x : Setting) → x.Value
  | apiHost => s.apiHost
  | key => s.key
  | nodeId => s.nodeId
  | nodeType => s.nodeType
  | timeoutSeconds => s.timeoutSeconds
  | retryCount => s.retryCount
  | speedLimit => s.speedLimit
  | deviceLimit => s.deviceLimit
  | ruleListPath => s.ruleListPath
  | enableVless => s.enableVless
  | enableXtls => s.enableXtls

def collect (valueOf : (x : Setting) → x.Value) : Settings where
  apiHost := valueOf apiHost
  key := valueOf key
  nodeId := valueOf nodeId
  nodeType := valueOf nodeType
  timeoutSeconds := valueOf timeoutSeconds
  retryCount := valueOf retryCount
  speedLimit := valueOf speedLimit
  deviceLimit := valueOf deviceLimit
  ruleListPath := valueOf ruleListPath
  enableVless := valueOf enableVless
  enableXtls := valueOf enableXtls

@[simp] theorem get_collect (valueOf : (x : Setting) → x.Value) (x : Setting) :
    x.get (collect valueOf) = valueOf x := by
  cases x <;> rfl

private theorem name_mem_names (x : Setting) : x.name ∈ names := by
  cases x <;> decide

theorem eq_of_name_eq {x y : Setting} (h : x.name = y.name) : x = y := by
  revert h
  cases x <;> cases y <;> decide

/-- What the value in the first source that has one comes to as a setting. -/
def ofValue (x : Setting) : Option Json → Except FaultKind x.Value
  | none => .ok x.default
  | some v => x.read v

def ofVariable (x : Setting) : Option Text → Except FaultKind x.Value
  | none => .ok x.default
  | some t => x.read (.str t)

end Setting

theorem readFrom_iff {o : Json.Fields} {s : Settings} :
    ReadFrom o s ↔ ∀ x : Setting, optional o [x.name] x.default x.read = ok (x.get s) := by
  constructor
  · intro h x
    cases x
    · exact h.apiHost
    · exact h.key
    · exact h.nodeId
    · exact h.nodeType
    · exact h.timeoutSeconds
    · exact h.retryCount
    · exact h.speedLimit
    · exact h.deviceLimit
    · exact h.ruleListPath
    · exact h.enableVless
    · exact h.enableXtls
  · intro h
    exact {
      apiHost := h .apiHost
      key := h .key
      nodeId := h .nodeId
      nodeType := h .nodeType
      timeoutSeconds := h .timeoutSeconds
      retryCount := h .retryCount
      speedLimit := h .speedLimit
      deviceLimit := h .deviceLimit
      ruleListPath := h .ruleListPath
      enableVless := h .enableVless
      enableXtls := h .enableXtls }

theorem eq_of_get {s s' : Settings} (h : ∀ x : Setting, x.get s = x.get s') : s = s' := by
  have hcollect (s : Settings) : Setting.collect (fun x => x.get s) = s := rfl
  rw [← hcollect s, ← hcollect s', funext h]

private theorem get?_fieldsOf {environment : Environment} {given : Keyed Json}
    {found : Keyed (Option Text)} {name : Text} (h : name ∈ names) :
    (fieldsOf given environment found).get? name =
      valueOf? (foldKeys given) (folded environment) found name := by
  unfold fieldsOf Json.Fields.get?
  generalize names = ns at h
  induction ns with
  | nil => contradiction
  | cons n ns ih =>
    rw [List.filterMap_cons]
    by_cases hn : name = n
    · subst hn
      cases hvalue : valueOf? (foldKeys given) (folded environment) found name with
      | some v => simp
      | none =>
        refine List.lookup_eq_none_iff.2 fun field hfield => bne_iff_ne.2 fun heq => ?_
        obtain ⟨n, -, hsome⟩ := List.mem_filterMap.1 hfield
        obtain ⟨v, hv, rfl⟩ := Option.map_eq_some_iff.1 hsome
        rw [← show name = n from heq, hvalue] at hv
        contradiction
    · have hne : (name == n) = false := beq_eq_false_iff_ne.2 hn
      have hmem : name ∈ ns := (List.mem_cons.1 h).resolve_left hn
      cases valueOf? (foldKeys given) (folded environment) found n with
      | some v =>
        rw [Option.map_some, List.lookup_cons, hne]
        exact ih hmem
      | none => exact ih hmem

theorem readFrom_fieldsOf_iff {given : Keyed Json} {environment : Environment}
    {found : Keyed (Option Text)} {s : Settings} :
    ReadFrom (fieldsOf given environment found) s ↔ ∀ x : Setting,
      x.ofValue (valueOf? (foldKeys given) (folded environment) found x.name) = .ok (x.get s) := by
  rw [readFrom_iff]
  refine forall_congr' fun x => ?_
  rw [optional_eq_ok_iff, get?_fieldsOf x.name_mem_names]
  cases valueOf? (foldKeys given) (folded environment) found x.name <;> simp [Setting.ofValue]

theorem hasText_nodeId_of_load [Machine] {files : Tree} {environment : Environment}
    {paths : List Text} {s : Settings} (h : load files environment paths [] = .ok s) :
    HasText s.nodeId := by
  obtain ⟨found, -, hread⟩ := load_eq_ok_iff.1 h
  have hvalue : Setting.nodeId.ofValue (valueOf? [] (folded environment) found "node_id") =
      .ok s.nodeId := readFrom_fieldsOf_iff.1 hread .nodeId
  cases htext : ((folded environment).get? (mark ++ Text.ofString "node_id")).or
      (found.get? (mark ++ Text.ofString "node_id")).join with
  | none =>
    rw [valueOf?, htext] at hvalue
    rw [← Except.ok.inj hvalue]
    decide
  | some t =>
    rw [valueOf?, htext] at hvalue
    exact Coercion.hasText_of_readNat hvalue

/-! The caller as the only source -/

theorem load_given_iff [Machine] {given : Keyed Json} {s : Settings} :
    load .empty [] [] given = .ok s ↔
      ∀ x : Setting, x.ofValue (Keyed.get? (foldKeys given) x.name) = .ok (x.get s) := by
  have hvalue (name : Text) :
      valueOf? (foldKeys given) (folded []) [] name = Keyed.get? (foldKeys given) name :=
    Option.or_none
  rw [load_eq_ok_iff]
  simp only [fileVariables, Except.ok.injEq, exists_eq_left', readFrom_fieldsOf_iff, hvalue]

/-! One file as the only source -/

def IsUnmarked (environment : Environment) : Prop :=
  ∀ entry ∈ environment, ¬ mark <+: foldCase entry.1

instance : DecidablePred IsUnmarked := fun environment =>
  inferInstanceAs (Decidable (∀ entry ∈ environment, _))

theorem IsUnmarked.get?_folded {environment : Environment} (h : IsUnmarked environment)
    (name : Text) :
    (folded environment).get? (mark ++ name) = none := by
  rw [Settings.get?_folded, List.find?_eq_none.2]
  · rfl
  · intro entry hentry heq
    have hfold : foldCase entry.1 = mark ++ name := beq_iff_eq.1 heq
    exact h entry (List.mem_reverse.1 hentry) (hfold ▸ List.prefix_append _ _)

/-- What the text of a file binds the variable of a setting to. -/
def fileValue (environment : Environment) (t : Text) (x : Setting) : Option Text :=
  ((folded (bindingsOfText environment t)).get? (mark ++ x.name)).join

def IsDistinct (bs : List Binding) : Prop := (bs.map fun b => foldCase b.1).Nodup

/-- Without two spellings of one variable the value of a setting is that of the one binding that names
it, with the variables replaced that were bound before. -/
theorem fileValue_eq_some_iff {environment : Environment} {t v : Text} {x : Setting}
    (hdistinct : IsDistinct (bindings (dropMark t))) :
    fileValue environment t x = some v ↔
      ∃ earlier n u later, bindings (dropMark t) = earlier ++ (n, some u) :: later ∧
        foldCase n = mark ++ x.name ∧
        interpolate (variableValue environment (resolve environment earlier)) u = v := by
  unfold fileValue bindingsOfText
  rw [Option.join_eq_some_iff, get?_folded_resolve_iff]
  constructor
  · rintro ⟨earlier, ⟨n, found⟩, later, hsplit, hdecides, hresolved⟩
    obtain ⟨u, rfl, hu⟩ := Option.map_eq_some_iff.1 hresolved
    have hname : foldCase n = mark ++ x.name := by
      simpa using List.find?_some hdecides.spelling_last
    exact ⟨earlier, n, u, later, hsplit, hname, hu⟩
  · rintro ⟨earlier, n, u, later, hsplit, hname, hu⟩
    refine ⟨earlier, (n, some u), later, hsplit, decides_of_only hname ?_, congrArg some hu⟩
    intro b hb heq
    rw [hsplit] at hdistinct
    have hmiddle := (List.perm_middle.map _).nodup_iff.1 hdistinct
    rw [List.map_cons, List.nodup_cons] at hmiddle
    exact hmiddle.1 (List.mem_map.2 ⟨b, hb, heq.trans hname.symm⟩)

private theorem valueOf?_file {environment : Environment} (henvironment : IsUnmarked environment)
    (t : Text)
    (x : Setting) :
    valueOf? (foldKeys []) (folded environment)
        (Keyed.putAll [] (folded (bindingsOfText environment t))) x.name =
      (fileValue environment t x).map .str := by
  have hgiven : Keyed.get? (foldKeys []) x.name = (none : Option Json) := rfl
  unfold valueOf?
  rw [hgiven, henvironment.get?_folded, get?_putAll_folded]
  simp only [Option.none_or]
  exact congrArg (fun found => (Option.join found).map Json.str) Option.or_none

section File

variable [Machine] {files : Tree} {environment : Environment} {source t : Text} {path : Path}
  (hsource : Location.expandUser environment (Path.ofText source) = .ok path)
  (henvironment : IsUnmarked environment) (hfile : files.isFile path = .ok true)
  (hread : files.readText path = .ok t)

include hsource hfile hread in
theorem fileVariables_cons (sources : List Text) (found : Keyed (Option Text)) :
    fileVariables files environment (source :: sources) found =
      fileVariables files environment sources
        (found.putAll (folded (bindingsOfText environment t))) := by
  rw [fileVariables, hsource]
  simp [hfile, hread, bind, Except.bind]

include hsource in
theorem fileVariables_cons_of_absent (habsent : files.isFile path = .ok false) (sources : List Text)
    (found : Keyed (Option Text)) :
    fileVariables files environment (source :: sources) found =
      fileVariables files environment sources found := by
  rw [fileVariables, hsource]
  simp [habsent, bind, Except.bind]

include hsource hfile hread in
private theorem fileVariables_one :
    fileVariables files environment [source] [] =
      .ok (Keyed.putAll [] (folded (bindingsOfText environment t))) :=
  fileVariables_cons hsource hfile hread [] []

include hsource henvironment hfile hread

theorem load_file_iff {s : Settings} :
    load files environment [source] [] = .ok s ↔
      ∀ x : Setting, x.ofVariable (fileValue environment t x) = .ok (x.get s) := by
  rw [load_eq_ok_iff, fileVariables_one hsource hfile hread]
  simp only [Except.ok.injEq, exists_eq_left', readFrom_fieldsOf_iff, valueOf?_file henvironment]
  refine forall_congr' fun x => ?_
  cases fileValue environment t x <;> rfl

theorem load_file_ok_iff :
    (∃ s, load files environment [source] [] = .ok s) ↔
      ∀ x : Setting, ∃ v, x.ofVariable (fileValue environment t x) = .ok v := by
  constructor
  · rintro ⟨s, hs⟩ x
    exact ⟨x.get s, (load_file_iff hsource henvironment hfile hread).1 hs x⟩
  · intro h
    choose valueOf hvalues using h
    refine ⟨Setting.collect valueOf, (load_file_iff hsource henvironment hfile hread).2 fun x => ?_⟩
    rw [Setting.get_collect, hvalues x]

end File

end NodePanel.Settings
