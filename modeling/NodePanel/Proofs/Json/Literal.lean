import NodePanel.Json.Reader
import NodePanel.Json.Writer
import NodePanel.Proofs.Text.Surrogate

/-!
String literals. Written one code point after the other, a text is read one code point after the
other, and only an escaped high surrogate waits for what comes next. So a literal is read back as
its text, unless escapes put a high and a low surrogate of the text next to each other.
-/
namespace NodePanel.Json.Reader

variable {taken : Text} {high : Bool} {place : Place} {frames : List Frame}

@[simp] theorem hexValue?_hexDigit (n : Nat) : hexValue? (hexDigit n) = some (n % 16) := by
  have hlt := Nat.mod_lt n (show 0 < 16 by decide)
  unfold hexDigit
  by_cases hsmall : n % 16 < 10
  · have hval := CodePoint.val_ofNat (show 0x30 + n % 16 < 0x110000 by omega)
    rw [if_pos hsmall]
    unfold hexValue? CodePoint.isAsciiDigit
    rw [hval, if_pos (by simp; omega), Nat.add_sub_cancel_left]
  · have hval := CodePoint.val_ofNat (show 0x57 + n % 16 < 0x110000 by omega)
    rw [if_neg hsmall]
    unfold hexValue? CodePoint.isAsciiDigit
    rw [hval, if_neg (by simp; omega), if_pos (by simp; omega), Nat.add_sub_cancel_left]

theorem giveUnit_alone {unit : CodePoint} (h : high = true → unit.isLowSurrogate = false) :
    giveUnit unit taken high = .string (unit :: taken) unit.isHighSurrogate := by
  unfold giveUnit
  cases taken with
  | nil => rfl
  | cons last before =>
    have hjoin : (high && unit.isLowSurrogate) = false := by
      cases high with
      | false => rfl
      | true => exact h rfl
    dsimp only
    rw [hjoin]
    rfl

/-- The code points that have a short escape, with the letter of the escape. -/
def shortEscapes : List (CodePoint × CodePoint) :=
  [('"', '"'), ('\\', '\\'), ('\n', 'n'), ('\r', 'r'), ('\t', 't'), (CodePoint.ofNat 0x0C, 'f'),
    (CodePoint.ofNat 0x08, 'b')]

theorem exists_shortEscapes {c : CodePoint} {escape : Text} (h : shortEscape? c = some escape) :
    ∃ letter, (c, letter) ∈ shortEscapes ∧ escape = [CodePoint.ofChar '\\', letter] := by
  unfold shortEscape? at h
  by_cases hc : c = CodePoint.ofChar '"'
  · rw [if_pos hc] at h
    exact ⟨'"', by simp [shortEscapes, hc], (Option.some.inj h).symm⟩
  rw [if_neg hc] at h
  clear hc
  by_cases hc : c = CodePoint.ofChar '\\'
  · rw [if_pos hc] at h
    exact ⟨'\\', by simp [shortEscapes, hc], (Option.some.inj h).symm⟩
  rw [if_neg hc] at h
  clear hc
  by_cases hc : c = CodePoint.ofChar '\n'
  · rw [if_pos hc] at h
    exact ⟨'n', by simp [shortEscapes, hc], (Option.some.inj h).symm⟩
  rw [if_neg hc] at h
  clear hc
  by_cases hc : c = CodePoint.ofChar '\r'
  · rw [if_pos hc] at h
    exact ⟨'r', by simp [shortEscapes, hc], (Option.some.inj h).symm⟩
  rw [if_neg hc] at h
  clear hc
  by_cases hc : c = CodePoint.ofChar '\t'
  · rw [if_pos hc] at h
    exact ⟨'t', by simp [shortEscapes, hc], (Option.some.inj h).symm⟩
  rw [if_neg hc] at h
  clear hc
  by_cases hc : c.val = 0x0C
  · rw [if_pos hc] at h
    exact ⟨'f', by simp [shortEscapes, CodePoint.ext_val (d := CodePoint.ofNat 0x0C) hc],
      (Option.some.inj h).symm⟩
  rw [if_neg hc] at h
  clear hc
  by_cases hc : c.val = 0x08
  · rw [if_pos hc] at h
    exact ⟨'b', by simp [shortEscapes, CodePoint.ext_val (d := CodePoint.ofNat 0x08) hc],
      (Option.some.inj h).symm⟩
  rw [if_neg hc] at h
  clear hc
  contradiction

theorem shortEscaped?_of_mem :
    ∀ e ∈ shortEscapes,
      shortEscaped? e.2 = some e.1 ∧ e.2 ≠ CodePoint.ofChar 'u' ∧ e.1.val < 0x80 := by
  decide

variable [Machine]

@[simp] theorem run_nil (state : Reader) : state.run [] = state := rfl

@[simp] theorem run_cons (state : Reader) (c : CodePoint) (t : Text) :
    state.run (c :: t) = (state.step c).run t := rfl

/-! Escapes -/

theorem step_hexDigit {digits : Nat} (h : digits < 3) (n value : Nat) :
    step (.open (.unit taken high digits value) place frames) (hexDigit n) =
      .open (.unit taken high (digits + 1) (value * 16 + n % 16)) place frames := by
  unfold step
  rw [hexValue?_hexDigit]
  exact if_pos h

@[simp] theorem step_lastHexDigit (n value : Nat) :
    step (.open (.unit taken high 3 value) place frames) (hexDigit n) =
      .open (giveUnit (CodePoint.ofNat (value * 16 + n % 16)) taken high) place frames := by
  unfold step
  rw [hexValue?_hexDigit]
  rfl

theorem run_unitEscape {n : Nat} (h : n < 0x10000) :
    run (.open (.string taken high) place frames) (unitEscape n) =
      .open (giveUnit (CodePoint.ofNat n) taken high) place frames := by
  have hdigits : hexText 4 n =
      [hexDigit (n / 16 / 16 / 16), hexDigit (n / 16 / 16), hexDigit (n / 16), hexDigit n] := rfl
  have hvalue : (((0 * 16 + n / 16 / 16 / 16 % 16) * 16 + n / 16 / 16 % 16) * 16 + n / 16 % 16) * 16
      + n % 16 = n := by omega
  have hopen : run (.open (.string taken high) place frames) (Text.ofString "\\u") =
      .open (.unit taken high 0 0) place frames := rfl
  unfold unitEscape
  rw [run_append, hopen, hdigits]
  rw [run_cons, step_hexDigit (by decide), run_cons, step_hexDigit (by decide), run_cons,
    step_hexDigit (by decide), run_cons, step_lastHexDigit, hvalue, run_nil]

private theorem run_pointEscape {c : CodePoint} (h : high = true → c.isLowSurrogate = false) :
    run (.open (.string taken high) place frames) (pointEscape c) =
      .open (.string (c :: taken) c.isHighSurrogate) place frames := by
  unfold pointEscape
  split
  next hsmall => rw [run_unitEscape hsmall, CodePoint.ofNat_val, giveUnit_alone h]
  next hlarge =>
    have hlarge := Nat.le_of_not_lt hlarge
    have hlt := c.isLt
    have hfirst := c.isHighSurrogate_first
    have hsecond := c.isLowSurrogate_second
    have hnot := CodePoint.isLowSurrogate_of_isHighSurrogate hfirst
    have hpair := CodePoint.ofPair_ofNat hlarge
    rw [run_append, run_unitEscape (by omega), giveUnit_alone fun _ => hnot,
      run_unitEscape (by omega)]
    generalize CodePoint.ofNat (0xD800 + (c.val - 0x10000) / 0x400) = first at *
    generalize CodePoint.ofNat (0xDC00 + (c.val - 0x10000) % 0x400) = second at *
    unfold giveUnit
    dsimp only
    rw [hfirst, hsecond, Bool.and_self, if_pos rfl, hpair,
      CodePoint.isHighSurrogate_of_large hlarge]

private theorem run_shortEscape {c : CodePoint} {escape : Text} (h : shortEscape? c = some escape) :
    run (.open (.string taken high) place frames) escape =
      .open (.string (c :: taken) false) place frames := by
  obtain ⟨letter, hmem, rfl⟩ := exists_shortEscapes h
  obtain ⟨hletter, hunit, -⟩ := shortEscaped?_of_mem _ hmem
  have hopen : step (.open (.string taken high) place frames) (CodePoint.ofChar '\\') =
      .open (.escape taken high) place frames := rfl
  rw [run_cons, hopen, run_cons, run_nil]
  unfold step
  dsimp only at hletter hunit ⊢
  rw [if_neg hunit, hletter]

/-! Texts -/

private theorem step_plain {c : CodePoint} (hescape : shortEscape? c = none)
    (hcontrol : 0x20 ≤ c.val) :
    step (.open (.string taken high) place frames) c =
      .open (.string (c :: taken) false) place frames := by
  have hquote : c ≠ CodePoint.ofChar '"' := by
    rintro rfl
    contradiction
  have hbackslash : c ≠ CodePoint.ofChar '\\' := by
    rintro rfl
    contradiction
  unfold step
  dsimp only
  rw [if_neg hquote, if_neg hbackslash, if_neg (Nat.not_lt.2 hcontrol)]

private theorem run_pointText {asciiOnly : Bool} {c : CodePoint}
    (h : high = true → c.isLowSurrogate = false) :
    run (.open (.string taken high) place frames) (pointText asciiOnly c) =
      .open (.string (c :: taken) (asciiOnly && c.isHighSurrogate)) place frames := by
  unfold pointText
  split
  next escape hescape =>
    obtain ⟨letter, hmem, -⟩ := exists_shortEscapes hescape
    obtain ⟨-, -, hsmall⟩ := shortEscaped?_of_mem _ hmem
    rw [run_shortEscape hescape, CodePoint.isHighSurrogate_of_small hsmall, Bool.and_false]
  next hescape =>
    split
    next hwritten =>
      have hhigh : (asciiOnly && c.isHighSurrogate) = c.isHighSurrogate := by
        cases asciiOnly with
        | true => rfl
        | false =>
          have hcontrol : c.val < 0x20 := by simpa using hwritten
          rw [CodePoint.isHighSurrogate_of_small (by omega)]
          rfl
      rw [run_pointEscape h, hhigh]
    next hplain =>
      simp only [Bool.or_eq_true, Bool.and_eq_true, decide_eq_true_eq, not_or, not_and,
        Nat.not_lt, Nat.not_le] at hplain
      have hhigh : (asciiOnly && c.isHighSurrogate) = false := by
        cases asciiOnly with
        | false => rfl
        | true =>
          have hsmall := hplain.2 rfl
          exact CodePoint.isHighSurrogate_of_small (by omega)
      rw [run_cons, run_nil, step_plain hescape hplain.1, hhigh]

private theorem run_points {asciiOnly : Bool} {t : Text}
    (hfirst : high = true → ∀ c ∈ t.head?, c.isLowSurrogate = false)
    (h : asciiOnly = true → t.IsUnpaired) :
    ∃ high', run (.open (.string taken high) place frames) (t.flatMap (pointText asciiOnly)) =
      .open (.string (t.reverse ++ taken) high') place frames := by
  induction t generalizing taken high with
  | nil => exact ⟨high, rfl⟩
  | cons c t ih =>
    rw [List.flatMap_cons, run_append, run_pointText fun hh => hfirst hh c rfl, List.reverse_cons,
      List.append_assoc, List.singleton_append]
    refine ih (fun hh => ?_) fun hascii => (h hascii).tail
    obtain ⟨hascii, hsurrogate⟩ := Bool.and_eq_true_iff.1 hh
    exact (h hascii).head? hsurrogate

theorem run_stringText {asciiOnly : Bool} {t : Text} (h : asciiOnly = true → t.IsUnpaired) :
    run (.open .idle place frames) (stringText asciiOnly t) = giveString t place frames := by
  have hopen : step (.open .idle place frames) (CodePoint.ofChar '"') =
      .open (.string [] false) place frames := rfl
  obtain ⟨high, hpoints⟩ : ∃ high, run (.open (.string [] false) place frames)
      (t.flatMap (pointText asciiOnly)) = .open (.string (t.reverse ++ []) high) place frames :=
    run_points nofun h
  have hclose : step (.open (.string t.reverse high) place frames) (CodePoint.ofChar '"') =
      giveString t place frames := by
    show giveString t.reverse.reverse place frames = _
    rw [List.reverse_reverse]
  unfold stringText
  rw [run_cons, hopen, run_append, hpoints, List.append_nil, run_cons, hclose, run_nil]

end NodePanel.Json.Reader
