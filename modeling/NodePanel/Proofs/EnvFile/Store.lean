import Mathlib.Tactic.MkIffOfInductiveProp
import NodePanel.Proofs.EnvFile.Kept
import NodePanel.Proofs.SortedKeys

/-!
The user's file as a store of variables. A line gives back the key and the value that it was written
from if these are clean, so a file of clean variables is read as just them. Updates that start without
a file leave, after each of them, the heading and one line for every variable that was given a value,
in the order of the keys.
-/
namespace NodePanel.EnvFile

variable {t : Text} {entry : Text × Text} {entries : Keyed Text} {values : Keyed (Option Text)}

/-! Variables that a line gives back -/

@[mk_iff]
structure IsCleanKey (key : Text) : Prop where
  ne_nil : key ≠ []
  blank : Text.IsTrimmed CodePoint.isBlank key
  not_sign : CodePoint.ofChar '=' ∉ key
  not_comment : key.head?.any isCommentMark = false
  oneLine : IsOneLine key

@[mk_iff]
structure IsCleanValue (value : Text) : Prop where
  blank : Text.IsTrimmed CodePoint.isBlank value
  double : Text.IsTrimmed isDoubleQuote value
  single : Text.IsTrimmed isSingleQuote value
  oneLine : IsOneLine value

@[mk_iff]
structure IsClean (entry : Text × Text) : Prop where
  key : IsCleanKey entry.1
  value : IsCleanValue entry.2

instance : DecidablePred IsCleanKey := fun _ => decidable_of_iff' _ (isCleanKey_iff _)

instance : DecidablePred IsCleanValue := fun _ => decidable_of_iff' _ (isCleanValue_iff _)

instance : DecidablePred IsClean := fun _ => decidable_of_iff' _ (isClean_iff _)

theorem unquoteEnds_eq_self_iff {value : Text} : unquoteEnds value = value ↔
    Text.IsTrimmed CodePoint.isBlank value ∧ Text.IsTrimmed isDoubleQuote value ∧
      Text.IsTrimmed isSingleQuote value := by
  constructor
  · intro h
    have hsingle : unquoteEnds value <:+: Text.trim isDoubleQuote (Text.strip value) :=
      Text.trim_isInfix
    have hdouble : Text.trim isDoubleQuote (Text.strip value) <:+: Text.strip value :=
      Text.trim_isInfix
    have hblank : Text.strip value <:+: value := Text.trim_isInfix
    rw [h] at hsingle
    -- What is left in the end is as long as the value, so no step has made it shorter.
    have hstrip : Text.strip value = value :=
      hblank.eq_of_length_le (hsingle.trans hdouble).length_le
    rw [hstrip] at hdouble hsingle
    have htrim : Text.trim isDoubleQuote value = value := hdouble.eq_of_length_le hsingle.length_le
    refine ⟨Text.isTrimmed_of_trim_eq hstrip, Text.isTrimmed_of_trim_eq htrim,
      Text.isTrimmed_of_trim_eq ?_⟩
    rwa [unquoteEnds, hstrip, htrim] at h
  · rintro ⟨hblank, hdouble, hsingle⟩
    unfold unquoteEnds Text.strip
    rw [hblank.trim, hdouble.trim, hsingle.trim]

private theorem IsCleanKey.ofLine?_line {key : Text} (h : IsCleanKey key) (value : Text) :
    ofLine? (line (key, value)) = some (key, unquoteEnds value) := by
  have hhead : (line (key, value)).head?.any CodePoint.isBlank = false := by
    rw [line, List.head?_append_of_ne_nil _ h.ne_nil]
    exact h.blank.head
  have hfront : (line (key, value)).dropWhile CodePoint.isBlank = line (key, value) :=
    Text.dropWhile_append (List.forall_mem_nil _) hhead
  have hstrip : Text.strip (line (key, value)) =
      key ++ CodePoint.ofChar '=' :: Text.dropEndWhile CodePoint.isBlank value := by
    unfold Text.strip Text.trim
    rw [hfront]
    exact Text.dropEndWhile_append_cons (by decide)
  have hcomment : (Text.strip (line (key, value))).head?.any isCommentMark = false := by
    rw [hstrip, List.head?_append_of_ne_nil _ h.ne_nil]
    exact h.not_comment
  have hcut : Text.cut? '=' (Text.strip (line (key, value))) =
      some (key, Text.dropEndWhile CodePoint.isBlank value) :=
    Text.cut?_eq_some_iff.2 ⟨hstrip, h.not_sign⟩
  have hkey : Text.strip key = key := h.blank.trim
  have hvalue : unquoteEnds (Text.dropEndWhile CodePoint.isBlank value) = unquoteEnds value := by
    unfold unquoteEnds Text.strip
    rw [Text.trim_dropEndWhile]
  unfold ofLine?
  dsimp only
  rw [hcomment, hcut]
  dsimp only
  rw [hkey, hvalue, List.isEmpty_eq_false_iff.2 h.ne_nil]
  rfl

private theorem splitLines_lines {ls : List Text} (h : ∀ l ∈ ls, IsOneLine l) :
    Text.splitLines (lines ls) = ls := by
  induction ls with
  | nil => rfl
  | cons l ls ih =>
    rw [lines_cons, newline, Text.splitLines_line (h l List.mem_cons_self),
      ih fun l' hl' => h l' (List.mem_cons_of_mem _ hl')]

/-- A text of variables with clean keys on one line each is read as these, in the order of their
keys, without what is dropped at the ends of the values. -/
theorem ofText_toText_of_isCleanKey (hnodup : entries.keys.Nodup)
    (h : ∀ entry ∈ entries, IsCleanKey entry.1 ∧ IsOneLine entry.2) :
    ofText (toText entries) = entries.sorted.map fun entry => (entry.1, unquoteEnds entry.2) := by
  have hsorted : ∀ entry ∈ entries.sorted, IsCleanKey entry.1 ∧ IsOneLine entry.2 :=
    fun entry hentry => h entry (mem_sorted.1 hentry)
  have hlines : ∀ l ∈ heading :: entries.sorted.map line, IsOneLine l := by
    intro l hl
    rcases List.mem_cons.1 hl with rfl | hl
    · exact fun c hc => (isPlain_heading c hc).2
    · obtain ⟨entry, hentry, rfl⟩ := List.mem_map.1 hl
      exact isOneLine_line (hsorted entry hentry).1.oneLine (hsorted entry hentry).2
  have hheading : ofLine? heading = none := by decide +kernel
  have hread : (entries.sorted.map line).filterMap ofLine? =
      entries.sorted.map fun entry => (entry.1, unquoteEnds entry.2) := by
    rw [List.filterMap_map, ← List.filterMap_eq_map]
    exact List.filterMap_congr fun entry hentry => (hsorted entry hentry).1.ofLine?_line entry.2
  have hkeys : Keyed.keys (entries.sorted.map fun entry => (entry.1, unquoteEnds entry.2)) =
      entries.sorted.keys := List.map_map
  unfold ofText
  rw [toText_eq_lines, splitLines_lines hlines, List.filterMap_cons, hheading]
  dsimp only
  rw [hread]
  apply Keyed.collect_of_nodup
  rw [hkeys]
  exact Keyed.nodup_sorted hnodup

theorem ofText_toText (hnodup : entries.keys.Nodup) (h : ∀ entry ∈ entries, IsClean entry) :
    ofText (toText entries) = entries.sorted := by
  rw [ofText_toText_of_isCleanKey hnodup fun entry hentry =>
    ⟨(h entry hentry).key, (h entry hentry).value.oneLine⟩]
  refine (List.map_congr_left fun entry hentry => ?_).trans (List.map_id _)
  have hvalue := (h entry (mem_sorted.1 hentry)).value
  exact Prod.ext rfl (unquoteEnds_eq_self_iff.2 ⟨hvalue.blank, hvalue.double, hvalue.single⟩)

/-! Updates -/

@[mk_iff]
structure IsStorable (entry : Text × Text) : Prop extends IsClean entry where
  scalar_key : Utf8.IsScalar entry.1
  scalar_value : Utf8.IsScalar entry.2

instance : DecidablePred IsStorable := fun _ => decidable_of_iff' _ (isStorable_iff _)

theorem IsStorable.isPlain (h : IsStorable entry) : IsPlain entry.1 ∧ IsPlain entry.2 :=
  ⟨fun c hc => ⟨h.scalar_key c hc, h.key.oneLine c hc⟩,
    fun c hc => ⟨h.scalar_value c hc, h.value.oneLine c hc⟩⟩

/-- Updates of the file at a path, one after the other, up to the first that fails. -/
def updateAll (files : Tree) (p : Path) :
    List (Keyed (Option Text)) → Tree × Except FileError Unit
  | [] => (files, .ok ())
  | values :: updates =>
    match update files p values with
    | (files, .ok ()) => updateAll files p updates
    | (files, .error e) => (files, .error e)

def lastValue? (updates : List (Keyed (Option Text))) (key : Text) : Option Text :=
  updates.flatten.reverse.findSome? fun entry => if entry.1 = key then entry.2 else none

@[simp] theorem lastValue?_append (earlier later : List (Keyed (Option Text))) (key : Text) :
    lastValue? (earlier ++ later) key = (lastValue? later key).or (lastValue? earlier key) := by
  unfold lastValue?
  rw [List.flatten_append, List.reverse_append, List.findSome?_append]

private theorem lookup_assigned (values : Keyed (Option Text)) (key : Text) :
    (assigned values).lookup key =
      values.findSome? fun entry => if entry.1 = key then entry.2 else none := by
  unfold assigned
  induction values with
  | nil => rfl
  | cons entry values ih =>
    obtain ⟨name, value⟩ := entry
    rw [List.filterMap_cons, List.findSome?_cons]
    cases value with
    | none => simpa using ih
    | some value =>
      dsimp only [Option.map_some]
      rw [List.lookup_cons, ih]
      by_cases hname : name = key
      · simp [hname]
      · have hne : (key == name) = false := beq_eq_false_iff_ne.2 (Ne.symm hname)
        rw [hne, if_neg hname]

theorem get?_putAll_assigned (entries : Keyed Text) (values : Keyed (Option Text)) (key : Text) :
    (entries.putAll (assigned values)).get? key =
      (lastValue? [values] key).or (entries.get? key) := by
  have hreverse : (assigned values).reverse = assigned values.reverse := List.filterMap_reverse.symm
  rw [Keyed.get?_putAll, hreverse, lookup_assigned]
  simp [lastValue?]

/-- A file of the store: the heading and the variables, each on its line, in the order of the keys. -/
structure Stores (files : Tree) (p : Path) (entries : Keyed Text) : Prop where
  isSorted : Keyed.IsSorted entries
  storable : ∀ entry ∈ entries, IsStorable entry
  holds : files.Holds p (Utf8.encodeWide (lines (heading :: entries.map line)))

section Stored

variable {files : Tree} {p : Path}

theorem Stores.toText_eq (h : Stores files p entries) :
    toText entries = lines (heading :: entries.map line) := by
  rw [toText_eq_lines, h.isSorted.sorted_eq]

theorem Stores.readText (h : Stores files p entries) :
    files.readText p = .ok (lines (heading :: entries.map line)) := by
  have hholds := h.holds
  rw [← h.toText_eq] at hholds ⊢
  exact readText_of_holds_toText (fun entry hentry => (h.storable entry hentry).isPlain) hholds

theorem Stores.ofText (h : Stores files p entries) :
    ofText (lines (heading :: entries.map line)) = entries := by
  rw [← h.toText_eq, ofText_toText h.isSorted.nodup fun entry hentry =>
    (h.storable entry hentry).toIsClean, h.isSorted.sorted_eq]

theorem stores_sorted (hnodup : entries.keys.Nodup) (h : ∀ entry ∈ entries, IsStorable entry)
    (hholds : files.Holds p (Utf8.encodeWide (toText entries))) : Stores files p entries.sorted := by
  rw [toText_eq_lines] at hholds
  exact ⟨Keyed.isSorted_sorted hnodup, fun entry hentry => h entry (mem_sorted.1 hentry), hholds⟩

variable (hvalues : ∀ entry ∈ assigned values, IsStorable entry)

include hvalues in
/-- An update of the store keeps it one, and adds the values that are given. -/
theorem Stores.update (h : Stores files p entries) :
    ∃ written stored, update files p values = (written, .ok ()) ∧ Stores written p stored ∧
      ∀ key, stored.get? key = (lastValue? [values] key).or (entries.get? key) := by
  obtain ⟨written, hupdate, hholds⟩ :=
    exists_update h.readText fun entry hentry => (hvalues entry hentry).isPlain
  rw [h.ofText] at hholds
  have hnodup : (entries.putAll (assigned values)).keys.Nodup := Keyed.nodup_putAll h.isSorted.nodup
  have hstorable : ∀ entry ∈ entries.putAll (assigned values), IsStorable entry := fun entry hentry =>
    (Keyed.mem_of_mem_putAll hentry).elim (h.storable entry) (hvalues entry)
  refine ⟨written, _, hupdate, stores_sorted hnodup hstorable hholds, fun key => ?_⟩
  rw [Keyed.get?_sorted hnodup, get?_putAll_assigned]

theorem Stores.updateAll (h : Stores files p entries) {updates : List (Keyed (Option Text))}
    (hupdates : ∀ values ∈ updates, ∀ entry ∈ assigned values, IsStorable entry) :
    ∃ written stored, updateAll files p updates = (written, .ok ()) ∧ Stores written p stored ∧
      ∀ key, stored.get? key = (lastValue? updates key).or (entries.get? key) := by
  induction updates generalizing files entries with
  | nil => exact ⟨files, entries, rfl, h, fun key => rfl⟩
  | cons values updates ih =>
    obtain ⟨written, stored, hupdate, hstores, hstored⟩ :=
      h.update (hupdates values List.mem_cons_self)
    obtain ⟨written', stored', hrest, hstores', hstored'⟩ :=
      ih hstores fun values' hvalues' => hupdates values' (List.mem_cons_of_mem _ hvalues')
    refine ⟨written', stored', ?_, hstores', fun key => ?_⟩
    · unfold EnvFile.updateAll
      rw [hupdate]
      exact hrest
    · have happend := lastValue?_append [values] updates key
      rw [List.singleton_append] at happend
      rw [hstored', hstored, happend, Option.or_assoc]

end Stored

section New

variable {files made : Tree} {p : Path} (hmade : files.ensureDirectory p.parent = (made, .ok ()))
  (hvacant : made.IsVacant p)

include hmade hvacant

private theorem exists_stores_of_vacant (hvalues : ∀ entry ∈ assigned values, IsStorable entry) :
    ∃ written stored, update files p values = (written, .ok ()) ∧ Stores written p stored ∧
      ∀ key, stored.get? key = lastValue? [values] key := by
  have hnodup : (Keyed.putAll [] (assigned values)).keys.Nodup := Keyed.nodup_putAll List.nodup_nil
  have hstorable : ∀ entry ∈ Keyed.putAll [] (assigned values), IsStorable entry :=
    fun entry hentry => (Keyed.mem_of_mem_putAll hentry).elim nofun (hvalues entry)
  have hscalar := isScalar_toText fun entry hentry => (hstorable entry hentry).isPlain
  obtain ⟨written, hreplace, hholds⟩ := exists_replaceText hscalar hvacant.write
  refine ⟨written, _, (update_new hmade hvacant).trans hreplace,
    stores_sorted hnodup hstorable hholds, fun key => ?_⟩
  rw [Keyed.get?_sorted hnodup, get?_putAll_assigned]
  exact Option.or_none

theorem exists_stores_updateAll {updates : List (Keyed (Option Text))} (hne : updates ≠ [])
    (hupdates : ∀ values ∈ updates, ∀ entry ∈ assigned values, IsStorable entry) :
    ∃ written stored, updateAll files p updates = (written, .ok ()) ∧ Stores written p stored ∧
      ∀ key, stored.get? key = lastValue? updates key := by
  obtain ⟨values, later, rfl⟩ := List.exists_cons_of_ne_nil hne
  obtain ⟨first, initial, hupdate, hstores, hinitial⟩ :=
    exists_stores_of_vacant hmade hvacant (hupdates values List.mem_cons_self)
  obtain ⟨written, stored, hrest, hstores', hstored⟩ :=
    hstores.updateAll fun values' hvalues' => hupdates values' (List.mem_cons_of_mem _ hvalues')
  refine ⟨written, stored, ?_, hstores', fun key => ?_⟩
  · unfold updateAll
    rw [hupdate]
    exact hrest
  · rw [hstored, hinitial, ← lastValue?_append, List.singleton_append]

/-- Updates with clean variables, where no file is at first. After each of them the file is the
heading and one line for every variable that was given a value so far, its last one, in the order of
the keys, and it is read as these variables. Updates that give the same last values leave the same
octets. -/
theorem file_after_updates {updates : List (Keyed (Option Text))}
    (hupdates : ∀ values ∈ updates, ∀ entry ∈ assigned values, IsStorable entry)
    {earlier later : List (Keyed (Option Text))} (h : updates = earlier ++ values :: later) :
    ∃ written stored octets, updateAll files p (earlier ++ [values]) = (written, .ok ()) ∧
      Keyed.IsSorted stored ∧
      (∀ key, stored.get? key = lastValue? (earlier ++ [values]) key) ∧
      Utf8.encode (lines (heading :: stored.map line)) = .ok octets ∧
      written.read p = .ok octets ∧
      written.readText p = .ok (lines (heading :: stored.map line)) ∧
      ofText (lines (heading :: stored.map line)) = stored ∧
      ∀ others, others ≠ [] → (∀ values ∈ others, ∀ entry ∈ assigned values, IsStorable entry) →
        (∀ key, lastValue? others key = lastValue? (earlier ++ [values]) key) →
        ∃ written', updateAll files p others = (written', .ok ()) ∧ written'.read p = .ok octets := by
  subst h
  rw [List.append_cons] at hupdates
  have hne : earlier ++ [values] ≠ [] := List.concat_ne_nil values earlier
  obtain ⟨written, stored, hupdate, hstores, hstored⟩ :=
    exists_stores_updateAll hmade hvacant hne fun values' hvalues' =>
      hupdates values' (List.mem_append_left later hvalues')
  refine ⟨written, stored, _, hupdate, hstores.isSorted, hstored, ?_,
    Tree.read_eq_ok_iff.2 hstores.holds, hstores.readText, hstores.ofText, ?_⟩
  · refine Utf8.encode_eq_ok ?_
    rw [← hstores.toText_eq]
    exact isScalar_toText fun entry hentry => (hstores.storable entry hentry).isPlain
  · intro others hne hothers hsame
    obtain ⟨written', stored', hupdate', hstores', hstored'⟩ :=
      exists_stores_updateAll hmade hvacant hne hothers
    have heq : stored' = stored := hstores'.isSorted.eq_of_get?_eq hstores.isSorted fun key => by
      rw [hstored', hstored, hsame]
    subst heq
    exact ⟨written', hupdate', Tree.read_eq_ok_iff.2 hstores'.holds⟩

end New

/-- Signs, quotation marks and blanks inside a value are kept, a variable without a value is left
alone, and the order of the updates does not show. -/
theorem file_after_updates_in_other_order :
    ∃ written written', updateAll Tree.empty (Path.ofText "u.env")
        [[("B", some "x = \"y\" # 'z' !"), ("A", none)], [("A", some "=1"), ("B", none)]] =
          (written, .ok ()) ∧
      updateAll Tree.empty (Path.ofText "u.env")
        [[("A", some "=1")], [("B", some "x = \"y\" # 'z' !")], [("A", some "=1")]] =
          (written', .ok ()) ∧
      written'.read (Path.ofText "u.env") = written.read (Path.ofText "u.env") := by
  have hmade : Tree.empty.ensureDirectory (Path.ofText "u.env").parent = (Tree.empty, .ok ()) := by
    decide
  have hvacant : Tree.empty.IsVacant (Path.ofText "u.env") := ⟨by decide, _, rfl, rfl⟩
  have hupdates : ∀ values ∈ ([[("B", some "x = \"y\" # 'z' !"), ("A", none)],
      [("A", some "=1"), ("B", none)]] : List (Keyed (Option Text))),
      ∀ entry ∈ assigned values, IsStorable entry := by decide
  obtain ⟨written, stored, octets, hupdate, -, -, -, hread, -, -, hothers⟩ :=
    file_after_updates hmade hvacant hupdates (List.append_cons [] _ _)
  obtain ⟨written', hupdate', hread'⟩ := hothers
    [[("A", some "=1")], [("B", some "x = \"y\" # 'z' !")], [("A", some "=1")]]
    (List.cons_ne_nil _ _) (by decide) fun key => by
      by_cases hA : Text.ofString "A" = key <;> by_cases hB : Text.ofString "B" = key <;>
        simp [lastValue?, hA, hB]
  exact ⟨written, written', hupdate, hupdate', hread'.trans hread.symm⟩

end NodePanel.EnvFile
