import NodePanel.Proofs.Rules.Load

/-!
Lines of a file of rules. A file is written line by line, each with an end of its own choice, and what
is read from it are the lines that hold more than blanks. Two ends can read as one, when a line that
ends with a return is followed by an empty one, but then the line that is lost is blank.
-/
namespace NodePanel

namespace Text

inductive LineEnd where
  | newline
  | carriageReturn
  | both
deriving DecidableEq

def LineEnd.text : LineEnd → Text
  | newline => "\n"
  | carriageReturn => "\r"
  | both => "\r\n"

/-- The text of lines with an end after each, and of a last line without one, if there is one. -/
def written (lines : List (Text × LineEnd)) (last : Option Text) : Text :=
  lines.flatMap (fun line => line.1 ++ line.2.text) ++ last.getD []

def IsUnended (line : Text) : Prop := ∀ c ∈ line, c ≠ CodePoint.ofChar '\n' ∧ c ≠ CodePoint.ofChar '\r'

instance : DecidablePred IsUnended := fun line => inferInstanceAs (Decidable (∀ c ∈ line, _))

theorem splitOn_of_isUnended {line : Text} (h : IsUnended line) : splitOn '\n' line = [line] := by
  have hpieces : ∀ piece ∈ [line], CodePoint.ofChar '\n' ∉ piece := by
    simpa using fun hmem => (h _ hmem).1 rfl
  simpa [join] using splitOn_join hpieces (List.cons_ne_nil line [])

/-! Breaks brought to one form -/

/-- What the breaks of a text become when the text before it ended with a return, or did not. -/
def unifyFrom (afterReturn : Bool) (t : Text) : Text := unifyBreaks.go t afterReturn []

theorem unifyBreaks_go_eq (t : Text) (afterReturn : Bool) (done : Text) :
    unifyBreaks.go t afterReturn done = done.reverse ++ unifyFrom afterReturn t := by
  unfold unifyFrom
  induction t generalizing afterReturn done with
  | nil => simp [unifyBreaks.go]
  | cons c t ih =>
    unfold unifyBreaks.go
    split
    · rw [ih true (_ :: done), ih true [_]]
      simp
    · split
      · cases afterReturn with
        | true => simp [ih false done]
        | false => simp [ih false (_ :: done), ih false [_]]
      · rw [ih false (c :: done), ih false [c]]
        simp

private theorem unifyFrom_point {c : CodePoint} (hnewline : c ≠ CodePoint.ofChar '\n')
    (hreturn : c ≠ CodePoint.ofChar '\r') (afterReturn : Bool) (t : Text) :
    unifyFrom afterReturn (c :: t) = c :: unifyFrom false t := by
  have hgo : unifyFrom afterReturn (c :: t) = unifyBreaks.go t false [c] := by
    simp [unifyFrom, unifyBreaks.go, hnewline, hreturn]
  rw [hgo, unifyBreaks_go_eq]
  rfl

theorem unifyFrom_line {line : Text} (h : IsUnended line) (afterReturn : Bool) (t : Text) :
    unifyFrom afterReturn (line ++ t) = line ++ unifyFrom (afterReturn && line.isEmpty) t := by
  induction line generalizing afterReturn with
  | nil => simp
  | cons c line ih =>
    have hc := h c List.mem_cons_self
    have hline := ih (fun d hd => h d (List.mem_cons_of_mem c hd)) false
    rw [List.cons_append, unifyFrom_point hc.1 hc.2, hline]
    simp

@[simp] theorem unifyFrom_return (afterReturn : Bool) (t : Text) :
    unifyFrom afterReturn (CodePoint.ofChar '\r' :: t) =
      CodePoint.ofChar '\n' :: unifyFrom true t :=
  unifyBreaks_go_eq t true [CodePoint.ofChar '\n']

@[simp] theorem unifyFrom_newline (t : Text) :
    unifyFrom false (CodePoint.ofChar '\n' :: t) = CodePoint.ofChar '\n' :: unifyFrom false t :=
  unifyBreaks_go_eq t false [CodePoint.ofChar '\n']

@[simp] theorem unifyFrom_true_newline (t : Text) :
    unifyFrom true (CodePoint.ofChar '\n' :: t) = unifyFrom false t := rfl

private theorem unifyFrom_lineEnd (lineEnd : LineEnd) (afterReturn : Bool) (t : Text) :
    (∃ still, unifyFrom afterReturn (lineEnd.text ++ t) =
        CodePoint.ofChar '\n' :: unifyFrom still t) ∨
      afterReturn = true ∧ unifyFrom afterReturn (lineEnd.text ++ t) = unifyFrom false t := by
  cases lineEnd with
  | newline =>
    cases afterReturn with
    | false => exact .inl ⟨false, unifyFrom_newline t⟩
    | true => exact .inr ⟨rfl, unifyFrom_true_newline t⟩
  | carriageReturn => exact .inl ⟨true, unifyFrom_return afterReturn t⟩
  | both => exact .inl ⟨false, unifyFrom_return afterReturn (CodePoint.ofChar '\n' :: t)⟩

/-! Lines that hold more than blanks -/

/-- The lines of a text with newlines, less those that are blank. -/
def solidLines (t : Text) : List Text := (splitOn '\n' t).filter (!isBlank ·)

private theorem solidLines_of_isUnended {line : Text} (h : IsUnended line) :
    solidLines line = [line].filter (!isBlank ·) := by
  rw [solidLines, splitOn_of_isUnended h]

private theorem solidLines_line {line : Text} (h : IsUnended line) (t : Text) :
    solidLines (line ++ CodePoint.ofChar '\n' :: t) = [line].filter (!isBlank ·) ++ solidLines t := by
  unfold solidLines
  rw [splitOn_append_cons, splitOn_of_isUnended h, List.filter_append]

/-- Induction on the lines; the state between two of them is whether a return came last. -/
theorem solidLines_unifyFrom_written {lines : List (Text × LineEnd)} {last : Option Text}
    (h : ∀ line ∈ lines.map Prod.fst ++ last.toList, IsUnended line) (afterReturn : Bool) :
    solidLines (unifyFrom afterReturn (written lines last)) =
      (lines.map Prod.fst ++ last.toList).filter (!isBlank ·) := by
  induction lines generalizing afterReturn with
  | nil =>
    have hlast : IsUnended (last.getD []) := by
      cases last with
      | none => simp [IsUnended]
      | some line => exact h line (by simp)
    have hline : unifyFrom afterReturn (last.getD []) = last.getD [] := by
      simpa [unifyFrom, unifyBreaks.go] using unifyFrom_line hlast afterReturn []
    show solidLines (unifyFrom afterReturn (last.getD [])) = _
    rw [hline, solidLines_of_isUnended hlast]
    cases last <;> simp [isBlank]
  | cons first lines ih =>
    obtain ⟨line, lineEnd⟩ := first
    have hfirst : IsUnended line := h line (by simp)
    have hrest := ih fun l hl => h l (by simp_all)
    have hwritten : written ((line, lineEnd) :: lines) last =
        line ++ (lineEnd.text ++ written lines last) := by
      simp [written]
    have hlines : ((line, lineEnd) :: lines).map Prod.fst ++ last.toList =
        [line] ++ (lines.map Prod.fst ++ last.toList) := rfl
    rw [hwritten, hlines, unifyFrom_line hfirst, List.filter_append]
    rcases unifyFrom_lineEnd lineEnd (afterReturn && line.isEmpty) (written lines last) with
      ⟨still, hend⟩ | ⟨hlost, hend⟩
    · rw [hend, solidLines_line hfirst, hrest]
    · have hempty : line = [] := by simp_all
      rw [hend, hempty]
      exact hrest false

end Text

namespace Rule

open Text

private theorem dropEndWhile_of_isUnended {line : Text} (h : IsUnended line) :
    dropEndWhile isReturn line = line := by
  apply (isTrimmed_of_forall _).dropEndWhile
  intro c hc
  simp [isReturn, (h c hc).2]

private theorem ofLines_written {lines : List (Text × LineEnd)} {last : Option Text}
    (h : ∀ line ∈ lines.map Prod.fst ++ last.toList, IsUnended line) :
    ofLines (unifyBreaks (written lines last)) =
      ((lines.map Prod.fst ++ last.toList).filter (!isBlank ·)).map (⟨localId, ·⟩) := by
  have hsolid := solidLines_unifyFrom_written h false
  show (solidLines (unifyFrom false (written lines last))).map _ = _
  rw [hsolid]
  apply List.map_congr_left
  intro line hline
  rw [dropEndWhile_of_isUnended (h line (List.mem_filter.1 hline).1)]

end Rule

namespace Text

private theorem isScalar_lineEnd (lineEnd : LineEnd) : Utf8.IsScalar lineEnd.text := by
  cases lineEnd <;> decide

private theorem isScalar_written {lines : List (Text × LineEnd)} {last : Option Text}
    (h : ∀ line ∈ lines.map Prod.fst ++ last.toList, Utf8.IsScalar line) :
    Utf8.IsScalar (written lines last) := by
  intro c hc
  rcases List.mem_append.1 hc with hc | hc
  · obtain ⟨line, hline, hc⟩ := List.mem_flatMap.1 hc
    rcases List.mem_append.1 hc with hc | hc
    · exact h line.1 (List.mem_append_left _ (List.mem_map_of_mem hline)) c hc
    · exact isScalar_lineEnd line.2 c hc
  · cases last with
    | none => contradiction
    | some line => exact h line (by simp) c hc

end Text

namespace RuleLoad

open Text

/-- Lines that are put into a file with any ends, the last one perhaps without, give a rule each unless
they are blank, in their order and as they are. Nothing of the ends shows in the rules. -/
theorem rules_of_written_lines {lines : List (Text × LineEnd)} {last : Option Text}
    (hlines : ∀ line ∈ lines.map Prod.fst ++ last.toList, IsUnended line ∧ Utf8.IsScalar line) :
    ∃ octets, Utf8.encode (written lines last) = .ok octets ∧
      ∀ (files : Tree) (path : Text), isBlank path = false →
        files.Holds (Path.ofText path) octets →
          ∃ logs, ofOption files (some path) =
              .ok (⟨((lines.map Prod.fst ++ last.toList).filter
                (fun line => line.any (!·.isBlank))).map (⟨-1, ·⟩), .none⟩, logs) ∧
            ∀ record ∈ logs, record.level ≠ .warning := by
  have hscalar := isScalar_written fun line hline => (hlines line hline).2
  refine ⟨_, Utf8.encode_eq_ok hscalar, fun files path hblank hfile => ?_⟩
  have hrules := Rule.ofLines_written fun line hline => (hlines line hline).1
  have hsolid (line : Text) : (!isBlank line) = line.any (!·.isBlank) := List.not_all_eq_any_not
  simp only [hsolid] at hrules
  have hload := ofOption_of_ending (.text hblank hfile (Utf8.decode_encodeWide hscalar))
  rw [hrules] at hload
  exact ⟨_, hload, by simp⟩

def mixedLines : List (Text × LineEnd) := [
  (" a b ", .carriageReturn), ("", .newline), ("\u2003\t", .both), ("é", .both), ("", .newline)]

def mixedFiles : Tree :=
  Tree.empty.place (Path.ofText "r") (.file (Utf8.encodeWide (written mixedLines (some "\ufeff"))))

/-- A return before an empty line with a newline reads as one end. -/
theorem rules_of_mixed_lines :
    written mixedLines (some "\ufeff") = " a b \r\n\u2003\t\r\né\r\n\n\ufeff" ∧
      ∃ logs, ofOption mixedFiles (some "r") =
        .ok (⟨[⟨-1, " a b "⟩, ⟨-1, "é"⟩, ⟨-1, "\ufeff"⟩], .none⟩, logs) := by
  have hlines : ∀ line ∈ mixedLines.map Prod.fst ++ (some "\ufeff" : Option Text).toList,
      IsUnended line ∧ Utf8.IsScalar line := by decide
  obtain ⟨octets, hoctets, hload⟩ := rules_of_written_lines hlines
  cases hoctets.symm.trans (Utf8.encode_eq_ok (by decide))
  obtain ⟨logs, hrules, -⟩ := hload mixedFiles "r" (by decide) ⟨by decide, by decide⟩
  exact ⟨by decide, logs, hrules⟩

end RuleLoad

end NodePanel
