import NodePanel.Proofs.Encoding.Utf8
import NodePanel.Proofs.Number.Binary64
import NodePanel.Proofs.Number.Digits
import NodePanel.Proofs.Result
import NodePanel.Record.Node

/-!
Integers that are written and read again. A text that was read as an integer was not too long, so the
text of that integer is not either and is read as it.
-/
namespace NodePanel.Coercion

variable {t u : Text} {n : Int}

@[simp] theorem wellFormed_eq_ok_iff : wellFormed t = .ok u ↔ Utf8.IsScalar t ∧ t = u := by
  have hscalar : t.any CodePoint.isSurrogate = false ↔ Utf8.IsScalar t := by
    simp [Utf8.IsScalar]
  unfold wellFormed
  cases hany : t.any CodePoint.isSurrogate with
  | true =>
    refine iff_of_false nofun fun h => ?_
    rw [hscalar.2 h.1] at hany
    contradiction
  | false =>
    rw [← hscalar, and_iff_right hany]
    exact ⟨Except.ok.inj, congrArg Except.ok⟩

@[simp] theorem nonempty_eq_ok_iff : nonempty t = .ok u ↔ Utf8.IsScalar t ∧ t ≠ [] ∧ t = u := by
  refine Result.bind_eq_ok_iff.trans ?_
  simp only [wellFormed_eq_ok_iff]
  constructor
  · rintro ⟨_, ⟨hscalar, rfl⟩, h⟩
    split at h
    next => contradiction
    next hempty => exact ⟨hscalar, fun hnil => hempty (List.isEmpty_iff.2 hnil), Except.ok.inj h⟩
  · rintro ⟨hscalar, hne, rfl⟩
    exact ⟨t, ⟨hscalar, rfl⟩, if_neg fun hempty => hne (List.isEmpty_iff.1 hempty)⟩

@[simp] theorem atLeast_eq_ok_iff {bound m : Int} :
    atLeast bound n = .ok m ↔ bound ≤ n ∧ n = m := by
  unfold atLeast
  split <;> simp [*]

@[simp] theorem atMost_eq_ok_iff {bound m : Int} : atMost bound n = .ok m ↔ n ≤ bound ∧ n = m := by
  unfold atMost
  split <;> simp [*]

@[simp] theorem readNat_natCast (n : Nat) : readNat (.int n) = .ok n := by
  refine Result.map_eq_ok_iff.2 ⟨(n : Int), ?_, rfl⟩
  exact atLeast_eq_ok_iff.2 ⟨Int.natCast_nonneg n, rfl⟩

theorem hasText_of_plainInt? (h : plainInt? t = some n) : HasText n := by
  unfold plainInt? at h
  dsimp only at h
  split at h
  next => contradiction
  next hdigits =>
    split at h
    next => contradiction
    next =>
      split at h
      next => contradiction
      next hlength =>
        cases h
        have hall : Text.IsDigits (takeMinus t).2 := by
          simp only [Bool.or_eq_true, Bool.not_eq_true', not_or, Bool.not_eq_false] at hdigits
          exact List.all_eq_true.1 hdigits.2
        unfold HasText
        rw [Binary64.natAbs_withSign, Numeral.length_ofNat_le_iff (by decide)]
        exact (Numeral.digitsValue_lt hall).trans_le
          (Nat.pow_le_pow_right (by decide) (Nat.le_of_not_lt hlength))

theorem hasText_of_readInt (h : readInt (.str t) = .ok n) : HasText n := by
  obtain ⟨u, -, hu⟩ := Result.bind_eq_ok_iff.1 h
  unfold intOfText at hu
  split at hu
  next m hm =>
    cases hu
    exact hasText_of_plainInt? hm
  next =>
    split at hu
    next => contradiction
    next =>
      split at hu
      next m hm =>
        cases hu
        obtain ⟨tidied, -, hm⟩ := Option.bind_eq_some_iff.1 hm
        exact hasText_of_plainInt? hm
      next => contradiction

theorem hasText_of_readNat {n : Nat} (h : readNat (.str t) = .ok n) : HasText n := by
  obtain ⟨m, hm, rfl⟩ := Result.map_eq_ok_iff.1 h
  obtain ⟨k, hk, hm⟩ := Result.bind_eq_ok_iff.1 hm
  obtain ⟨hnonneg, rfl⟩ := atLeast_eq_ok_iff.1 hm
  rw [Int.toNat_of_nonneg hnonneg]
  exact hasText_of_readInt hk

/-! The text of an integer -/

@[simp] theorem takeMinus_ofInt (n : Int) :
    takeMinus (Text.ofInt n) = (decide (n < 0), Text.ofNat n.natAbs) := by
  unfold Text.ofInt
  split
  next hneg =>
    rw [decide_eq_true hneg]
    rfl
  next hneg =>
    have hminus : (Text.ofNat n.natAbs).head? ≠ some (CodePoint.ofChar '-') := fun hhead =>
      absurd (Numeral.isDigits_ofNat _ _ (List.mem_of_mem_head? hhead)) (by decide)
    unfold takeMinus
    rw [beq_eq_false_iff_ne.2 hminus, decide_eq_false hneg]
    rfl

@[simp] theorem withSign_natAbs (n : Int) : Binary64.withSign (decide (n < 0)) n.natAbs = n := by
  unfold Binary64.withSign
  split
  next hneg =>
    have := of_decide_eq_true hneg
    omega
  next hneg =>
    have := of_decide_eq_false (Bool.eq_false_iff.2 hneg)
    omega

private theorem plainInt?_ofInt (h : HasText n) : plainInt? (Text.ofInt n) = some n := by
  have hempty : (Text.ofNat n.natAbs).isEmpty = false :=
    List.isEmpty_eq_false_iff.2 (Numeral.ofNat_ne_nil _)
  have hall : (Text.ofNat n.natAbs).all CodePoint.isAsciiDigit = true :=
    List.all_eq_true.2 (Numeral.isDigits_ofNat _)
  have hzero : (1 < (Text.ofNat n.natAbs).length &&
      (Text.ofNat n.natAbs).head? == some (CodePoint.ofChar '0')) = false := by
    by_cases hn : n.natAbs = 0
    · rw [hn]
      rfl
    · exact Bool.and_eq_false_imp.2 fun _ => beq_eq_false_iff_ne.2 (Numeral.head?_ofNat hn)
  unfold plainInt?
  rw [takeMinus_ofInt]
  dsimp only
  rw [hempty, hall, hzero, if_neg (Nat.not_lt.2 h), Numeral.digitsValue_ofNat, withSign_natAbs]
  rfl

theorem mem_ofInt {c : CodePoint} (h : c ∈ Text.ofInt n) :
    c = CodePoint.ofChar '-' ∨ c.isAsciiDigit = true := by
  unfold Text.ofInt at h
  split at h
  · exact (List.mem_cons.1 h).imp_right (Numeral.isDigits_ofNat _ _)
  · exact .inr (Numeral.isDigits_ofNat _ _ h)

private theorem isScalar_ofInt (n : Int) : Utf8.IsScalar (Text.ofInt n) := by
  intro c hc
  rcases mem_ofInt hc with rfl | hdigit
  · rfl
  · simp only [CodePoint.isAsciiDigit, Bool.and_eq_true, decide_eq_true_eq] at hdigit
    simp only [CodePoint.isSurrogate, Bool.and_eq_false_iff, decide_eq_false_iff_not]
    omega

theorem isBlank_of_mem_ofInt {c : CodePoint} (h : c ∈ Text.ofInt n) : c.isBlank = false := by
  rcases mem_ofInt h with rfl | hdigit
  · decide
  · simp only [CodePoint.isAsciiDigit, Bool.and_eq_true, decide_eq_true_eq] at hdigit
    simp only [CodePoint.isBlank, CodePoint.isWhiteSpace, Bool.or_eq_false_iff,
      Bool.and_eq_false_iff, decide_eq_false_iff_not, beq_eq_false_iff_ne]
    omega

private theorem readInt_ofInt (h : HasText n) : readInt (.str (Text.ofInt n)) = .ok n := by
  refine Result.bind_eq_ok_iff.2 ⟨_, wellFormed_eq_ok_iff.2 ⟨isScalar_ofInt n, rfl⟩, ?_⟩
  unfold intOfText
  rw [plainInt?_ofInt h]

theorem readNat_ofInt_iff (h : HasText n) :
    (∃ m, readNat (.str (Text.ofInt n)) = .ok m) ↔ 0 ≤ n := by
  unfold readNat
  rw [readInt_ofInt h]
  by_cases hn : 0 ≤ n
  · exact iff_of_true ⟨n.toNat, by simp [atLeast, hn, bind, Except.bind, Except.map]⟩ hn
  · refine iff_of_false ?_ hn
    simp [atLeast, hn, bind, Except.bind, Except.map]

end NodePanel.Coercion
