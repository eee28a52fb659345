import NodePanel.Console.View
import NodePanel.Proofs.Rules.Load
import NodePanel.Proofs.Session.Exchange
import NodePanel.Proofs.Session.Run

/-!
The detection rules of a session. The local rules are loaded when it is opened and nothing that is done
with it changes them. Asking for the rules gives these, then those of the panel under the numbers from
zero on, so that the number says where a rule comes from.
-/
namespace NodePanel

namespace Rule

/-- The patterns in the data of an answer: the texts under `rules` if there is a list of texts, and
none if there is anything else. -/
structure AreListedIn (datas : Json) (patterns : List Text) : Prop where
  of_texts : ∀ (fields : Json.Fields) (texts : List Text), datas = .obj fields →
    fields.get? "rules" = some (.arr (texts.map .str)) → patterns = texts
  of_other : (∀ (fields : Json.Fields) (texts : List Text), datas = .obj fields →
    fields.get? "rules" ≠ some (.arr (texts.map .str))) → patterns = []

@[simp] theorem mapM_text?_map (texts : List Text) :
    (texts.map Json.str).mapM Json.text? = some texts := by
  induction texts with
  | nil => rfl
  | cons text texts ih => simp [Json.text?, ih]

private theorem eq_map_of_mapM_text? {items : List Json} {texts : List Text}
    (h : items.mapM Json.text? = some texts) : items = texts.map .str := by
  induction items generalizing texts with
  | nil =>
    cases h
    rfl
  | cons item items ih =>
    rw [List.mapM_cons] at h
    obtain ⟨text, hitem, h⟩ := Option.bind_eq_some_iff.1 h
    obtain ⟨texts', hitems, h⟩ := Option.bind_eq_some_iff.1 h
    cases h
    rw [List.map_cons, ← ih hitems]
    cases item with
    | str t =>
      cases hitem
      rfl
    | _ => contradiction

private theorem eq_arr_of_list_ne_nil {v : Option Json} (h : Lenient.list v ≠ []) :
    v = some (.arr (Lenient.list v)) := by
  unfold Lenient.list at h ⊢
  split at h
  next => rfl
  next => exact absurd rfl h

private theorem areListedIn_texts (datas : Json) :
    AreListedIn datas (Lenient.texts (datas.get? "rules")) := by
  constructor
  · rintro fields texts rfl h
    have hget : (Json.obj fields).get? "rules" = some (.arr (texts.map .str)) := h
    unfold Lenient.texts
    rw [hget]
    dsimp only [Lenient.list]
    rw [mapM_text?_map]
    rfl
  · intro hother
    unfold Lenient.texts
    cases hitems : (Lenient.list (datas.get? "rules")).mapM Json.text? with
    | none => rfl
    | some texts =>
      have hlist := eq_map_of_mapM_text? hitems
      cases texts with
      | nil => rfl
      | cons text texts =>
        have hne : Lenient.list (datas.get? "rules") ≠ [] := by
          rw [hlist]
          exact List.cons_ne_nil _ _
        have hget := eq_arr_of_list_ne_nil hne
        rw [hlist] at hget
        cases datas with
        | obj fields => exact absurd hget (hother fields (text :: texts) rfl)
        | _ => contradiction

@[simp] theorem getElem?_ofPatterns (patterns : List Text) (i : Nat) :
    (ofPatterns patterns)[i]? = patterns[i]?.map fun pattern => ⟨i, pattern⟩ :=
  List.getElem?_mapIdx

theorem sourceText_eq_local_iff {localRules panelRules : List Rule}
    (hlocal : ∀ rule ∈ localRules, rule.id = localId) (hpanel : ∀ rule ∈ panelRules, rule.id ≠ localId)
    {i : Nat} {rule : Rule} (h : (localRules ++ panelRules)[i]? = some rule) :
    rule.sourceText = "local" ↔ i < localRules.length := by
  have hsource : rule.sourceText = "local" ↔ rule.id = localId := by
    unfold sourceText
    split
    next hid => exact iff_of_true rfl hid
    next hid => exact iff_of_false (by decide) hid
  rw [hsource]
  by_cases hi : i < localRules.length
  · rw [List.getElem?_append_left hi] at h
    exact iff_of_true (hlocal rule (List.mem_of_getElem? h)) hi
  · rw [List.getElem?_append_right (Nat.le_of_not_lt hi)] at h
    exact iff_of_false (hpanel rule (List.mem_of_getElem? h)) hi

private theorem id_ofPatterns_ne {patterns : List Text} {rule : Rule}
    (h : rule ∈ ofPatterns patterns) :
    rule.id ≠ localId := by
  obtain ⟨i, hi⟩ := List.mem_iff_getElem?.1 h
  rw [getElem?_ofPatterns, Option.map_eq_some_iff] at hi
  obtain ⟨pattern, -, rfl⟩ := hi
  unfold localId
  dsimp only
  omega

end Rule

namespace RuleLoad

variable {files : Tree} {path : Option Text} {load : RuleLoad} {logs : List LogRecord}

/-- There is a path to load rules from, and the file at it has a text. -/
def HasText (files : Tree) (path : Option Text) (t : Text) : Prop :=
  ∃ p, path = some p ∧ Text.isBlank p = false ∧ files.readText (Path.ofText p) = .ok t

theorem eq_ofLines_or_eq_nil (h : ofOption files path = .ok (load, logs)) :
    (∃ t, HasText files path t ∧ load.rules = Rule.ofLines t) ∨
      (∀ t, ¬ HasText files path t) ∧ load.rules = [] := by
  have hending := ending_ofOption files path
  rw [h] at hending
  cases hending with
  | unset =>
    refine .inr ⟨?_, rfl⟩
    rintro t ⟨_, hpath, -, -⟩
    contradiction
  | blank hblank =>
    refine .inr ⟨?_, rfl⟩
    rintro t ⟨_, ⟨⟩, hpath, -⟩
    rw [hblank] at hpath
    contradiction
  | text hblank hfile htext =>
    have hread := Tree.readText_eq_ok_iff.2 ⟨_, _, hfile, htext, rfl⟩
    exact .inl ⟨_, ⟨_, rfl, hblank, hread⟩, rfl⟩
  | unreadable hblank hname hunreadable =>
    have hguard := Path.pathError?_ofText_eq_none_iff.2 hname
    refine .inr ⟨?_, rfl⟩
    rintro t ⟨_, ⟨⟩, -, hread⟩
    rw [(Tree.readText_eq_error_iff hguard).2 hunreadable] at hread
    contradiction

theorem id_eq_of_mem_rules (h : ofOption files path = .ok (load, logs)) {rule : Rule}
    (hrule : rule ∈ load.rules) : rule.id = Rule.localId := by
  rcases eq_ofLines_or_eq_nil h with ⟨t, -, hlines⟩ | ⟨-, hnil⟩
  · rw [hlines] at hrule
    obtain ⟨l, -, rfl⟩ := List.mem_map.1 hrule
    rfl
  · rw [hnil] at hrule
    contradiction

end RuleLoad

namespace World

open Session

variable [Machine]

@[simp] theorem load_step (w : World) (action : Action) :
    (w.step action).1.session.load = w.session.load := by
  cases action <;> rfl

@[simp] theorem load_run (w : World) (actions : List Action) :
    (w.run actions).1.session.load = w.session.load := by
  induction actions generalizing w with
  | nil => rfl
  | cons action actions ih =>
    rw [run_cons]
    exact (ih _).trans (load_step w action)

theorem getElem?_events (w : World) (earlier later : List Action) (action : Action) :
    (w.run (earlier ++ action :: later)).2[earlier.length]? =
      some ((w.run earlier).1.step action).2 := by
  rw [run_append, ← length_events w earlier, List.getElem?_append_right (Nat.le_refl _),
    Nat.sub_self, run_cons, List.getElem?_cons_zero]

theorem getElem?_of_perform {w : World} (earlier later : List Action) {operation : Operation}
    {result : Except CallError Reply}
    (h : ((w.run earlier).1.session.perform (w.run earlier).1.channel operation).2 = result) :
    (w.run (earlier ++ .perform operation :: later)).2[earlier.length]? = some (.result result) := by
  rw [getElem?_events, ← h]
  rfl

end World

namespace Session

private theorem perform_nodeRules [Machine] {s : Session} {c : Channel} {reply : Reply}
    (h : (s.perform c .nodeRules).2 = .ok reply) :
    ∃ datas, (s.call c Request.nodeRule).2 = .ok datas ∧
      reply = .rules (Rule.listOfDatas datas s.localRules) := by
  unfold perform Operation.request at h
  rcases hcall : s.call c Request.nodeRule with ⟨c', error | datas⟩
  · simp only [hcall] at h
    contradiction
  · simp only [hcall, read] at h
    exact ⟨datas, rfl, (Except.ok.inj h).symm⟩

end Session

namespace World

open Session

section

variable [Machine] {files : Tree} {settings : Settings} {transport : Transport} {session : Session}
  {logs : List LogRecord}

/-- Whatever is done with a session and whatever its transport gives, asking for the rules gives the
local ones as they were loaded, in the order of the file, and then those of the panel under the
numbers from zero on. In the table of these rules the local ones are marked as such. -/
theorem rules_of_run (hopen : Session.openOver files settings transport = .ok (session, logs))
    (channel : Channel) (present : Tree) (earlier later : List Action) {reply : Reply}
    (h : (run ⟨session, channel, present⟩
      (earlier ++ .perform .nodeRules :: later)).2[earlier.length]? =
      some (.result (.ok reply))) :
    ∃ datas patterns panelRules,
      let before := (run ⟨session, channel, present⟩ earlier).1
      let rules := session.localRules ++ panelRules
      (before.session.call before.channel Request.nodeRule).2 = .ok datas ∧
      Rule.AreListedIn datas patterns ∧
      (∀ i : Nat, panelRules[i]? = patterns[i]?.map fun pattern => ⟨i, pattern⟩) ∧
      reply = .rules rules ∧
      (∀ rule ∈ session.localRules, rule.id = -1) ∧
      ((∃ t, RuleLoad.HasText files (settings.ruleListPath.map Path.toText) t ∧
          session.localRules.map Rule.pattern =
            ((Text.splitOn '\n' t).filter (!Text.isBlank ·)).map (Text.dropEndWhile Rule.isReturn)) ∨
        (∀ t, ¬ RuleLoad.HasText files (settings.ruleListPath.map Path.toText) t) ∧
          session.localRules = []) ∧
      (∀ actions, (run ⟨session, channel, present⟩ actions).1.session.localRules =
        session.localRules) ∧
      (Rule.table rules).rows.length = rules.length ∧
      ∀ i rule, rules[i]? = some rule →
        ∃ row, (Rule.table rules).rows[i]? = some row ∧ row[2]? = some rule.pattern ∧
          (row[1]? = some (Text.ofString "local") ↔ i < session.localRules.length) := by
  obtain ⟨load, hload, rfl⟩ := (openOver_eq_ok_iff _).1 hopen
  have hlocal (actions : List Action) :
      (run ⟨⟨settings, load, transport⟩, channel, present⟩ actions).1.session.localRules = load.rules :=
    congrArg RuleLoad.rules (load_run _ actions)
  rw [getElem?_events] at h
  obtain ⟨datas, hcall, rfl⟩ := perform_nodeRules (Event.result.inj (Option.some.inj h))
  refine ⟨datas, Lenient.texts (datas.get? "rules"), _, hcall, Rule.areListedIn_texts datas,
    Rule.getElem?_ofPatterns _, ?_, fun rule => RuleLoad.id_eq_of_mem_rules hload, ?_, hlocal,
    List.length_map _, ?_⟩
  · unfold Rule.listOfDatas
    rw [hlocal]
    rfl
  · refine (RuleLoad.eq_ofLines_or_eq_nil hload).imp_left ?_
    rintro ⟨t, htext, hlines⟩
    refine ⟨t, htext, ?_⟩
    show load.rules.map Rule.pattern = _
    rw [hlines]
    exact List.map_map
  · intro i rule hrule
    refine ⟨rule.row, ?_, rfl, ?_⟩
    · unfold Rule.table
      rw [List.getElem?_map, hrule]
      rfl
    · refine Iff.trans ?_ (Rule.sourceText_eq_local_iff
        (fun _ => RuleLoad.id_eq_of_mem_rules hload) (fun _ => Rule.id_ofPatterns_ne) hrule)
      exact Option.some_inj

end

def patternFiles : Tree :=
  Tree.empty.place (Path.ofText "r") (.file (Utf8.encodeWide "b\n\na\r\n"))

def patternSettings : Settings :=
  ⟨"h", "k", 1, "V2ray", .zero, 3, .zero, 0, some (Path.ofText "r"), false, false⟩

/-- An answer with two patterns, and one whose list has a number in it. -/
def patternOutcomes : List Outcome := [
  .answer ⟨200, Utf8.encodeWide
    "\x7b\"response\":\x7b\"code\":200\x7d,\"datas\":\x7b\"rules\":[\"x\",\"y\"]\x7d\x7d", [],
    none⟩,
  .answer ⟨200, Utf8.encodeWide
    "\x7b\"response\":\x7b\"code\":200\x7d,\"datas\":\x7b\"rules\":[\"x\",1]\x7d\x7d", [], none⟩]

def patternSession : Session :=
  ⟨patternSettings, ⟨[⟨-1, "b"⟩, ⟨-1, "a"⟩], none⟩, .injected false⟩

def patternWorld : World := ⟨patternSession, .ofOutcomes patternOutcomes, .empty⟩

attribute [local instance] Machine.usual

/-- The rules of an answer do not stay, and a list that is not all texts gives none. -/
theorem rules_of_mixed_list :
    (∃ logs, Session.openOver patternFiles patternSettings (.injected false) =
      .ok (patternSession, logs)) ∧
    (patternWorld.run [.perform .nodeRules, .perform .nodeRules]).2[0]? =
      some (.result (.ok (.rules [⟨-1, "b"⟩, ⟨-1, "a"⟩, ⟨0, "x"⟩, ⟨1, "y"⟩]))) ∧
    (patternWorld.run [.perform .nodeRules, .perform .nodeRules]).2[1]? =
      some (.result (.ok (.rules [⟨-1, "b"⟩, ⟨-1, "a"⟩]))) ∧
    ∃ row, (Rule.table [⟨-1, "b"⟩, ⟨-1, "a"⟩, ⟨0, "x"⟩, ⟨1, "y"⟩]).rows[2]? = some row ∧
      row[1]? ≠ some (Text.ofString "local") := by
  have hload : ∃ logs, RuleLoad.ofOption patternFiles
      (patternSettings.ruleListPath.map Path.toText) = .ok (patternSession.load, logs) := ⟨_, rfl⟩
  obtain ⟨logs, hload⟩ := hload
  have hopen : Session.openOver patternFiles patternSettings (.injected false) =
      .ok (patternSession, logs) := (openOver_eq_ok_iff _).2 ⟨_, hload, rfl⟩
  have hfirst : (patternWorld.run [.perform .nodeRules, .perform .nodeRules]).2[0]? =
      some (.result (.ok (.rules [⟨-1, "b"⟩, ⟨-1, "a"⟩, ⟨0, "x"⟩, ⟨1, "y"⟩]))) := by
    have hreply : ((patternWorld.run []).1.session.perform
        (patternWorld.run []).1.channel .nodeRules).2 =
          .ok (.rules [⟨-1, "b"⟩, ⟨-1, "a"⟩, ⟨0, "x"⟩, ⟨1, "y"⟩]) :=
      Result.toOption_eq_some_iff.1 (by decide +kernel)
    exact getElem?_of_perform [] [.perform .nodeRules] hreply
  have hsecond : (patternWorld.run [.perform .nodeRules, .perform .nodeRules]).2[1]? =
      some (.result (.ok (.rules [⟨-1, "b"⟩, ⟨-1, "a"⟩]))) := by
    have hreply : ((patternWorld.run [.perform .nodeRules]).1.session.perform
        (patternWorld.run [.perform .nodeRules]).1.channel .nodeRules).2 =
          .ok (.rules [⟨-1, "b"⟩, ⟨-1, "a"⟩]) :=
      Result.toOption_eq_some_iff.1 (by decide +kernel)
    exact getElem?_of_perform [.perform .nodeRules] [] hreply
  obtain ⟨datas, patterns, panelRules, -, -, -, hreply, -, -, -, -, htable⟩ :=
    rules_of_run hopen patternWorld.channel .empty [] [.perform .nodeRules] hfirst
  have hrules := Reply.rules.inj hreply
  rw [← hrules] at htable
  obtain ⟨row, hrow, -, hlocal⟩ := htable 2 ⟨0, "x"⟩ rfl
  exact ⟨⟨logs, hopen⟩, hfirst, hsecond, row, hrow, fun h => absurd (hlocal.1 h) (by decide)⟩

end World

end NodePanel
