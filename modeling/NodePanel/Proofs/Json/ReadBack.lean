import NodePanel.Proofs.Json.Literal
import NodePanel.Proofs.Json.Word
import NodePanel.Proofs.Json.Written

/-!
A value that is written and read again. A word only ends at what follows it, so the state after a
text is looked at with the last word ended. Then the text of any value takes the reader from a place
where a value may come to the state in which the value was given, and an induction on the value goes
through the items between the separators.
-/
namespace NodePanel.Json

/-- The value is within the limits of the reader: no more than a number of containers inside one
another, no integer of too many digits, every key of an object once, and every text as required. -/
inductive Fits (p : Text → Prop) : Nat → Json → Prop where
  | null {levels : Nat} : Fits p levels .null
  | bool {levels : Nat} (b : Bool) : Fits p levels (.bool b)
  | int {levels : Nat} {n : Int} (h : HasText n) : Fits p levels (.int n)
  | float {levels : Nat} (x : Binary64) : Fits p levels (.float x)
  | str {levels : Nat} {t : Text} (h : p t) : Fits p levels (.str t)
  | arr {levels : Nat} {items : List Json} (h : ∀ v ∈ items, Fits p levels v) :
    Fits p (levels + 1) (.arr items)
  | obj {levels : Nat} {fields : Fields} (hnodup : (fields.map (·.1)).Nodup)
    (hkeys : ∀ f ∈ fields, p f.1) (h : ∀ f ∈ fields, Fits p levels f.2) :
    Fits p (levels + 1) (.obj fields)

theorem Fits.mono {p : Text → Prop} {levels more : Nat} {v : Json} (h : Fits p levels v)
    (hle : levels ≤ more) : Fits p more v := by
  induction h generalizing more with
  | null => exact .null
  | bool b => exact .bool b
  | int h => exact .int h
  | float x => exact .float x
  | str h => exact .str h
  | arr h ih =>
    obtain ⟨more, rfl⟩ := Nat.exists_eq_add_of_le' (Nat.lt_of_lt_of_le (Nat.succ_pos _) hle)
    exact .arr fun v hv => ih v hv (Nat.le_of_succ_le_succ hle)
  | obj hnodup hkeys h ih =>
    obtain ⟨more, rfl⟩ := Nat.exists_eq_add_of_le' (Nat.lt_of_lt_of_le (Nat.succ_pos _) hle)
    exact .obj hnodup hkeys fun f hf => ih f hf (Nat.le_of_succ_le_succ hle)

theorem Fits.value {p : Text → Prop} {levels : Nat} {fields : Fields} {f : Text × Json}
    (h : Fits p levels (.obj fields)) (hf : f ∈ fields) : Fits p levels f.2 := by
  cases h with
  | obj _ _ h => exact (h f hf).mono (Nat.le_succ _)

theorem Fits.get? {p : Text → Prop} {levels : Nat} {fields : Fields} {key : Text} {v : Json}
    (h : Fits p levels (.obj fields)) (hget : fields.get? key = some v) : Fits p levels v := by
  obtain ⟨before, after, rfl, -⟩ := List.lookup_eq_some_iff.1 hget
  exact h.value (f := (key, v)) (List.mem_append_right before List.mem_cons_self)

theorem Fits.item {p : Text → Prop} {levels : Nat} {items : List Json} {v : Json}
    (h : Fits p levels (.arr items)) (hv : v ∈ items) : Fits p levels v := by
  cases h with
  | arr h => exact (h v hv).mono (Nat.le_succ _)

/-- A comma and a colon are all that the separators hold besides blanks. -/
structure Style.IsStandard (style : Style) : Prop where
  items : ∃ blanks, style.itemSeparator = CodePoint.ofChar ',' :: blanks ∧
    ∀ c ∈ blanks, Reader.isSpace c = true
  keys : ∃ blanks, style.keySeparator = CodePoint.ofChar ':' :: blanks ∧
    ∀ c ∈ blanks, Reader.isSpace c = true

theorem Style.isStandard_ascii : Style.ascii.IsStandard :=
  ⟨⟨[CodePoint.ofChar ' '], rfl, by decide⟩, [CodePoint.ofChar ' '], rfl, by decide⟩

theorem Style.isStandard_compact : Style.compact.IsStandard :=
  ⟨⟨[], rfl, nofun⟩, [], rfl, nofun⟩

def Place.TakesValue (place : Place) : Prop := place = .value ∨ place = .valueOrEnd

namespace Reader

inductive IsSettled : Reader → Prop where
  | idle (place : Place) (frames : List Frame) : IsSettled (.open .idle place frames)
  | closed (v : Json) : IsSettled (closed v)
  | failed : IsSettled failed

theorem isSettled_give (v : Json) (frames : List Frame) : IsSettled (give v frames) := by
  unfold give
  split
  · exact .closed _
  · exact .idle _ _
  · exact .idle _ _
  · exact .failed

theorem isSettled_endWord (taken : Text) (place : Place) (frames : List Frame) :
    IsSettled (endWord taken place frames) := by
  unfold endWord giveValue
  split
  · split
    · exact isSettled_give _ _
    · exact isSettled_give _ _
    · exact .failed
  · exact .failed

def settle : Reader → Reader
  | .open (.word taken) place frames => endWord taken place frames
  | state => state

theorem settle_of_isSettled {state : Reader} (h : IsSettled state) : settle state = state := by
  cases h <;> rfl

@[simp] theorem finish_settle (state : Reader) : finish (settle state) = finish state := by
  unfold settle
  split
  next taken place frames =>
    have hsettled := isSettled_endWord taken place frames
    conv =>
      rhs
      unfold finish
    dsimp only
    generalize endWord taken place frames = settled at *
    cases hsettled <;> rfl
  next => rfl

private theorem put_eq_cons {done : Fields} {key : Text} {v : Json} (h : key ∉ done.map (·.1)) :
    Fields.put key v done = (key, v) :: done := by
  have hany : done.any (·.1 == key) = false := by
    rw [List.any_eq_false]
    intro f hf hkey
    exact h (beq_iff_eq.1 hkey ▸ List.mem_map_of_mem hf)
  unfold Fields.put
  rw [hany]
  rfl

variable [Machine]

private theorem step_settle {c : CodePoint} (hc : isWordPoint c = false) (state : Reader) :
    step (settle state) c = step state c := by
  unfold settle
  split
  next taken place frames =>
    have hsettled := isSettled_endWord taken place frames
    have hnot : ¬ isWordPoint c = true := by
      rw [hc]
      exact Bool.false_ne_true
    conv =>
      rhs
      unfold step
    dsimp only
    rw [if_neg hnot]
    generalize endWord taken place frames = settled at *
    cases hsettled <;> rfl
  next => rfl

theorem run_after {c : CodePoint} {state settled : Reader} (h : settle state = settled)
    (hc : isWordPoint c = false) (rest : Text) :
    run state (c :: rest) = run (step settled c) rest := by
  rw [run_cons, ← h, step_settle hc]

theorem run_blanks {blanks : Text} (h : ∀ c ∈ blanks, isSpace c = true) (place : Place)
    (frames : List Frame) : run (.open .idle place frames) blanks = .open .idle place frames := by
  induction blanks with
  | nil => rfl
  | cons c blanks ih =>
    have hstep : step (.open .idle place frames) c = .open .idle place frames :=
      if_pos (h c List.mem_cons_self)
    rw [run_cons, hstep, ih fun d hd => h d (List.mem_cons_of_mem c hd)]

/-! Words -/

private theorem run_word {taken t : Text} (h : ∀ c ∈ t, isWordPoint c = true) (place : Place)
    (frames : List Frame) :
    run (.open (.word taken) place frames) t = .open (.word (t.reverse ++ taken)) place frames := by
  induction t generalizing taken with
  | nil => rfl
  | cons c t ih =>
    have hstep : step (.open (.word taken) place frames) c = .open (.word (c :: taken)) place frames :=
      if_pos (h c List.mem_cons_self)
    rw [run_cons, hstep, ih fun d hd => h d (List.mem_cons_of_mem c hd), List.reverse_cons,
      List.append_assoc, List.singleton_append]

private theorem stepIdle_word {c : CodePoint} (h : isWordPoint c = true) (place : Place)
    (frames : List Frame) : stepIdle c place frames = .open (.word [c]) place frames := by
  have hspace : isSpace c = false := by
    rw [Bool.eq_false_iff]
    intro hspace
    simp only [isSpace, Bool.or_eq_true, decide_eq_true_eq] at hspace
    rcases hspace with ((rfl | rfl) | rfl) | rfl <;> contradiction
  have hquote : c ≠ CodePoint.ofChar '"' := by
    rintro rfl
    contradiction
  unfold stepIdle
  rw [hspace, if_neg (by decide), if_neg hquote, if_pos h]

theorem settle_run_isWord {t : Text} {v : Json} (h : IsWord t v) {place : Place}
    (hplace : place.TakesValue) (frames : List Frame) :
    settle (run (.open .idle place frames) t) = give v frames := by
  obtain ⟨hne, hpoints, hvalue⟩ := h
  obtain ⟨c, rest, rfl⟩ := List.exists_cons_of_ne_nil hne
  have hstep : step (.open .idle place frames) c = .open (.word [c]) place frames :=
    stepIdle_word (hpoints c List.mem_cons_self) place frames
  rw [run_cons, hstep, run_word fun d hd => hpoints d (List.mem_cons_of_mem c hd)]
  show endWord (rest.reverse ++ [c]) place frames = _
  unfold endWord
  rw [List.reverse_append, List.reverse_reverse, List.reverse_singleton, List.singleton_append,
    hvalue]
  rcases hplace with rfl | rfl <;> rfl

/-! Containers -/

section Items

variable {α : Type} {style : Style} {piece : α → Text} {frame : List α → Frame} {next : Place}
  {frames : List Frame}

/-- Pieces behind separators go into the innermost container one after the other, if each does where
it stands. -/
theorem settle_run_later (hstyle : style.IsStandard)
    (hcomma : ∀ done,
      comma .separator (frame done :: frames) = .open .idle next (frame done :: frames))
    {items done : List α} {state : Reader}
    (hpiece : ∀ before item after, items = before ++ item :: after →
      settle (run (.open .idle next (frame (before.reverse ++ done) :: frames)) (piece item)) =
        .open .idle .separator (frame (item :: (before.reverse ++ done)) :: frames))
    (hstate : settle state = .open .idle .separator (frame done :: frames)) :
    settle (run state (later style piece items)) =
      .open .idle .separator (frame (items.reverse ++ done) :: frames) := by
  induction items generalizing done state with
  | nil => exact hstate
  | cons item items ih =>
    obtain ⟨blanks, hseparator, hblanks⟩ := hstyle.items
    have hfirst := hpiece [] item items rfl
    have hstep : step (.open .idle .separator (frame done :: frames)) (CodePoint.ofChar ',') =
        comma .separator (frame done :: frames) := rfl
    have hlater : later style piece (item :: items) =
        CodePoint.ofChar ',' :: (blanks ++ (piece item ++ later style piece items)) := by
      simp [later, hseparator]
    rw [hlater, run_after hstate rfl, hstep, hcomma, run_append, run_blanks hblanks, run_append,
      List.reverse_cons, List.append_assoc, List.singleton_append]
    refine ih (fun before next after hsplit => ?_) hfirst
    have hnext := hpiece (item :: before) next after (by rw [hsplit, List.cons_append])
    rwa [List.reverse_cons, List.append_assoc, List.singleton_append] at hnext

theorem settle_run_between (hstyle : style.IsStandard)
    (hcomma : ∀ done,
      comma .separator (frame done :: frames) = .open .idle next (frame done :: frames))
    {items : List α} {opening : Place}
    (hpiece : ∀ place, place = next ∨ place = opening →
      ∀ before item after, items = before ++ item :: after →
      settle (run (.open .idle place (frame before.reverse :: frames)) (piece item)) =
        .open .idle .separator (frame (item :: before.reverse) :: frames)) :
    settle (run (.open .idle opening (frame [] :: frames)) (between style piece items)) =
      .open .idle (if items = [] then opening else .separator) (frame items.reverse :: frames) := by
  cases items with
  | nil => rfl
  | cons item items =>
    have hfirst := hpiece opening (.inr rfl) [] item items rfl
    show settle (run _ (piece item ++ later style piece items)) = _
    rw [run_append, if_neg (List.cons_ne_nil _ _), List.reverse_cons]
    refine settle_run_later hstyle hcomma (fun before next' after hsplit => ?_) hfirst
    have hnext := hpiece next (.inl rfl) (item :: before) next' after (by rw [hsplit]; rfl)
    rwa [List.reverse_cons] at hnext

end Items

private theorem settle_run_field {style : Style} (hstyle : style.IsStandard) {done : Fields}
    {frames : List Frame} {key : Text} {v : Json} {place : Place}
    (hplace : place = .key ∨ place = .keyOrEnd) (hfresh : key ∉ done.map (·.1))
    (hkey : style.asciiOnly = true → key.IsUnpaired)
    (hvalue : settle (run (.open .idle .value (.field done key :: frames)) (write style v)) =
      give v (.field done key :: frames)) :
    settle (run (.open .idle place (.object done :: frames)) (fieldText style (key, v))) =
      .open .idle .separator (.object ((key, v) :: done) :: frames) := by
  obtain ⟨blanks, hseparator, hblanks⟩ := hstyle.keys
  have hgive : giveString key place (.object done :: frames) =
      .open .idle (.colon key) (.object done :: frames) := by
    rcases hplace with rfl | rfl <;> rfl
  have hstep : step (.open .idle (.colon key) (.object done :: frames)) (CodePoint.ofChar ':') =
      .open .idle .value (.field done key :: frames) := rfl
  show settle (run _ (stringText style.asciiOnly key ++ style.keySeparator ++ write style v)) = _
  rw [List.append_assoc, run_append, run_stringText hkey, hgive, hseparator, List.cons_append,
    run_cons, hstep, run_append, run_blanks hblanks, hvalue]
  show Reader.open _ _ (.object (Fields.put key v done) :: frames) = _
  rw [put_eq_cons hfresh]

section Container

variable {style : Style} {frames : List Frame} {place : Place}
  (hdeep : frames.length < Machine.bodyLimit) (hplace : place.TakesValue)

include hdeep hplace

private theorem settle_run_arr {items : List Json}
    (hitems : settle (run (.open .idle .valueOrEnd (.array [] :: frames))
        (between style (write style) items)) =
      .open .idle (if items = [] then .valueOrEnd else .separator) (.array items.reverse :: frames)) :
    settle (run (.open .idle place frames) (write style (.arr items))) = give (.arr items) frames := by
  have hopen : step (.open .idle place frames) (CodePoint.ofChar '[') =
      .open .idle .valueOrEnd (.array [] :: frames) := by
    show openContainer (.array []) .valueOrEnd place frames = _
    unfold openContainer
    rw [if_neg (by omega)]
    rcases hplace with rfl | rfl <;> rfl
  have hclose : step (.open .idle (if items = [] then .valueOrEnd else .separator)
      (.array items.reverse :: frames)) (CodePoint.ofChar ']') = give (.arr items) frames := by
    show closeArray _ _ = _
    split <;> exact congrArg (fun items => give (.arr items) frames) (List.reverse_reverse items)
  rw [write_arr, run_cons, hopen, run_append, run_after hitems rfl, hclose, run_nil]
  exact settle_of_isSettled (isSettled_give _ _)

private theorem settle_run_obj {fields : Fields}
    (hfields : settle (run (.open .idle .keyOrEnd (.object [] :: frames))
        (between style (fieldText style) fields)) =
      .open .idle (if fields = [] then .keyOrEnd else .separator)
        (.object fields.reverse :: frames)) :
    settle (run (.open .idle place frames) (write style (.obj fields))) =
      give (.obj fields) frames := by
  have hopen : step (.open .idle place frames) (CodePoint.ofChar '\x7b') =
      .open .idle .keyOrEnd (.object [] :: frames) := by
    show openContainer (.object []) .keyOrEnd place frames = _
    unfold openContainer
    rw [if_neg (by omega)]
    rcases hplace with rfl | rfl <;> rfl
  have hclose : step (.open .idle (if fields = [] then .keyOrEnd else .separator)
      (.object fields.reverse :: frames)) (CodePoint.ofChar '\x7d') = give (.obj fields) frames := by
    show closeObject _ _ = _
    split <;>
      exact congrArg (fun fields => give (.obj fields) frames) (List.reverse_reverse fields)
  rw [write_obj, run_cons, hopen, run_append, run_after hfields rfl, hclose, run_nil]
  exact settle_of_isSettled (isSettled_give _ _)

end Container

/-- The text of a value gives the value. -/
theorem settle_run_write {style : Style} (hstyle : style.IsStandard) {p : Text → Prop}
    (hp : style.asciiOnly = true → ∀ t, p t → t.IsUnpaired) {levels : Nat} {v : Json}
    (h : Fits p levels v) {frames : List Frame} (hdeep : frames.length + levels ≤ Machine.bodyLimit)
    {place : Place} (hplace : place.TakesValue) :
    settle (run (.open .idle place frames) (write style v)) = give v frames := by
  induction h generalizing frames place with
  | null => exact settle_run_isWord isWord_null hplace frames
  | bool b =>
    rw [write_bool]
    exact settle_run_isWord (isWord_bool b) hplace frames
  | int h =>
    rw [write_int]
    exact settle_run_isWord (isWord_int h) hplace frames
  | float x =>
    rw [write_float]
    exact settle_run_isWord (isWord_float x) hplace frames
  | @str levels t h =>
    have hgive : giveString t place frames = give (.str t) frames := by
      rcases hplace with rfl | rfl <;> rfl
    rw [write_str, run_stringText fun hascii => hp hascii t h, hgive]
    exact settle_of_isSettled (isSettled_give _ _)
  | @arr levels items h ih =>
    have hcomma (done : List Json) : comma .separator (.array done :: frames) =
        .open .idle .value (.array done :: frames) := rfl
    refine settle_run_arr (by omega) hplace (settle_run_between hstyle hcomma ?_)
    rintro place hplace before item after rfl
    have hfits :
        ((Frame.array before.reverse) :: frames).length + levels ≤ Machine.bodyLimit := by
      rw [List.length_cons]
      omega
    exact ih item (by simp) hfits hplace
  | @obj levels fields hnodup hkeys h ih =>
    have hcomma (done : Fields) : comma .separator (.object done :: frames) =
        .open .idle .key (.object done :: frames) := rfl
    refine settle_run_obj (by omega) hplace (settle_run_between hstyle hcomma ?_)
    rintro place hplace before ⟨key, v⟩ after rfl
    have hfits :
        ((Frame.field before.reverse key) :: frames).length + levels ≤ Machine.bodyLimit := by
      rw [List.length_cons]
      omega
    have hfresh : key ∉ before.reverse.map (·.1) := by
      rw [List.map_append, List.map_cons] at hnodup
      have hdisjoint := (List.nodup_append.1 hnodup).2.2
      rw [List.map_reverse, List.mem_reverse]
      exact fun hmem => hdisjoint key hmem key List.mem_cons_self rfl
    exact settle_run_field hstyle hplace hfresh
      (fun hascii => hp hascii key (hkeys (key, v) (by simp)))
      (ih (key, v) (by simp) hfits (.inl rfl))

end Reader

theorem ofText?_write [Machine] {style : Style} (hstyle : style.IsStandard) {p : Text → Prop}
    (hp : style.asciiOnly = true → ∀ t, p t → t.IsUnpaired) {v : Json}
    (h : Fits p Machine.bodyLimit v) : ofText? (write style v) = some v := by
  have hrun : (Reader.start.run (write style v)).settle = .closed v :=
    Reader.settle_run_write hstyle hp h (Nat.le_of_eq (Nat.zero_add _)) (.inl rfl)
  unfold ofText?
  rw [← Reader.finish_settle, hrun]
  rfl

end NodePanel.Json
