import NodePanel.Encoding.Detect
import NodePanel.Proofs.Encoding.Utf8
import NodePanel.Proofs.Text.Basic
import NodePanel.Proofs.Text.Surrogate

/-!
Text in each of the encodings. An encoding reads back what it has written, and for ASCII text without
zeros the octets also tell which encoding it was: the octets of such text are less than `0x80`, so
they never look like a byte order mark, and the zeros among them are those that fill up the units.
-/
namespace NodePanel.Encoding

variable {bigEndian : Bool}

@[simp] theorem encode_cons (e : Encoding) (c : CodePoint) (t : Text) :
    e.encode (c :: t) = e.encodePoint c ++ e.encode t := rfl

/-! Units of two octets -/

theorem pairValue_octets {n : Nat} (h : n < 0x10000) :
    (UInt8.ofNat (n / 256)).toNat * 256 + (UInt8.ofNat n).toNat = n := by
  have hhigh : (UInt8.ofNat (n / 256)).toNat = n / 256 % 256 := UInt8.toNat_ofNat'
  have hlow : (UInt8.ofNat n).toNat = n % 256 := UInt8.toNat_ofNat'
  rw [hhigh, hlow]
  omega

theorem units16?_pairOctets {n : Nat} (h : n < 0x10000) (rest : Octets) (done : List Nat) :
    units16? bigEndian (pairOctets bigEndian n ++ rest) done =
      units16? bigEndian rest (n :: done) := by
  have hvalue := pairValue_octets h
  cases bigEndian with
  | true =>
    show units16? true rest (pairValue true (UInt8.ofNat (n / 256)) (UInt8.ofNat n) :: done) = _
    exact congrArg (fun n => units16? true rest (n :: done)) hvalue
  | false =>
    show units16? false rest (pairValue false (UInt8.ofNat n) (UInt8.ofNat (n / 256)) :: done) = _
    exact congrArg (fun n => units16? false rest (n :: done)) hvalue

def unitsOf (c : CodePoint) : List Nat :=
  if c.val < 0x10000 then [c.val]
  else [0xD800 + (c.val - 0x10000) / 0x400, 0xDC00 + (c.val - 0x10000) % 0x400]

@[simp] theorem units16?_encodePoint (c : CodePoint) (rest : Octets) (done : List Nat) :
    units16? bigEndian ((utf16 bigEndian).encodePoint c ++ rest) done =
      units16? bigEndian rest ((unitsOf c).reverse ++ done) := by
  have hlt := c.isLt
  unfold encodePoint unitsOf
  dsimp only
  split
  next hsmall => exact units16?_pairOctets hsmall rest done
  next hlarge =>
    rw [List.append_assoc, units16?_pairOctets (by omega), units16?_pairOctets (by omega)]
    rfl

@[simp] theorem units16?_encode (t : Text) (done : List Nat) :
    units16? bigEndian ((utf16 bigEndian).encode t) done =
      some (done.reverse ++ t.flatMap unitsOf) := by
  induction t generalizing done with
  | nil => simp [encode, units16?]
  | cons c t ih => simp [ih]

private theorem isLowSurrogate_of_head?_units {t : Text} {u : Nat}
    (h : (t.flatMap unitsOf).head? = some u)
    (ht : ∀ c ∈ t.head?, c.isLowSurrogate = false) : (CodePoint.ofNat u).isLowSurrogate = false := by
  cases t with
  | nil => contradiction
  | cons c t =>
    have hc := ht c rfl
    have hlt := c.isLt
    rw [List.flatMap_cons] at h
    unfold unitsOf at h
    split at h
    · cases h
      rwa [CodePoint.ofNat_val]
    · cases h
      exact CodePoint.isLowSurrogate_of_isHighSurrogate (CodePoint.isHighSurrogate_ofNat (by omega))

private theorem joinUnits_pair {u v : Nat} (hfirst : (CodePoint.ofNat u).isHighSurrogate = true)
    (hsecond : (CodePoint.ofNat v).isLowSurrogate = true) (rest : List Nat) (done : Text) :
    joinUnits (u :: v :: rest) done =
      joinUnits rest (CodePoint.ofPair (CodePoint.ofNat u) (CodePoint.ofNat v) :: done) := by
  conv => lhs; unfold joinUnits
  simp only [hfirst, hsecond, Bool.and_self, if_true]

private theorem joinUnits_single {u : Nat} {rest : List Nat}
    (h : ∀ v ∈ rest.head?, (CodePoint.ofNat u).isHighSurrogate = true →
      (CodePoint.ofNat v).isLowSurrogate = false) (done : Text) :
    joinUnits (u :: rest) done = joinUnits rest (CodePoint.ofNat u :: done) := by
  cases rest with
  | nil => simp [joinUnits]
  | cons v rest =>
    have hnot : ((CodePoint.ofNat u).isHighSurrogate && (CodePoint.ofNat v).isLowSurrogate) =
        false := by
      cases hhigh : (CodePoint.ofNat u).isHighSurrogate with
      | false => rfl
      | true => exact h v rfl hhigh
    conv => lhs; unfold joinUnits
    simp only [hnot, Bool.false_eq_true, if_false]

private theorem joinUnits_units {t : Text} (h : t.IsUnpaired) (done : Text) :
    joinUnits (t.flatMap unitsOf) done = done.reverse ++ t := by
  induction t generalizing done with
  | nil => simp [joinUnits]
  | cons c t ih =>
    rw [List.flatMap_cons]
    by_cases hsmall : c.val < 0x10000
    · have hunits : unitsOf c = [c.val] := if_pos hsmall
      rw [hunits, List.singleton_append, joinUnits_single, ih h.tail, CodePoint.ofNat_val,
        List.reverse_cons, List.append_assoc, List.singleton_append]
      intro v hv hhigh
      rw [CodePoint.ofNat_val] at hhigh
      exact isLowSurrogate_of_head?_units hv (h.head? hhigh)
    · have hunits : unitsOf c =
          [0xD800 + (c.val - 0x10000) / 0x400, 0xDC00 + (c.val - 0x10000) % 0x400] := if_neg hsmall
      rw [hunits, List.cons_append, List.singleton_append,
        joinUnits_pair c.isHighSurrogate_first c.isLowSurrogate_second, ih h.tail,
        CodePoint.ofPair_ofNat (Nat.le_of_not_lt hsmall), List.reverse_cons, List.append_assoc,
        List.singleton_append]

/-! Units of four octets -/

@[simp] theorem points32?_encodePoint (c : CodePoint) (rest : Octets) (done : Text) :
    points32? bigEndian ((utf32 bigEndian).encodePoint c ++ rest) done =
      points32? bigEndian rest (c :: done) := by
  have hlt := c.isLt
  have hhigh := pairValue_octets (show c.val / 65536 < 0x10000 by omega)
  have hlow := pairValue_octets (show c.val % 65536 < 0x10000 by omega)
  have hvalue : c.val / 65536 * 65536 + c.val % 65536 = c.val := Nat.div_add_mod' _ _
  cases bigEndian with
  | true =>
    unfold encodePoint pairOctets
    simp only [if_true, List.cons_append, List.nil_append]
    conv => lhs; unfold points32? pairValue
    simp only [if_true, hhigh, hlow, hvalue, hlt, CodePoint.ofNat_val]
  | false =>
    unfold encodePoint pairOctets
    simp only [Bool.false_eq_true, if_false, List.cons_append, List.nil_append]
    conv => lhs; unfold points32? pairValue
    simp only [Bool.false_eq_true, if_false, hhigh, hlow, hvalue, hlt, if_true,
      CodePoint.ofNat_val]

@[simp] theorem points32?_encode (t : Text) (done : Text) :
    points32? bigEndian ((utf32 bigEndian).encode t) done = some (done.reverse ++ t) := by
  induction t generalizing done with
  | nil => simp [encode, points32?]
  | cons c t ih => simp [ih]

/-- What an encoding has written it reads back, if no pair of surrogates is in it. -/
theorem decode?_encode (e : Encoding) {t : Text} (h : t.IsUnpaired) :
    e.decode? (e.encode t) = some t := by
  cases e with
  | utf8 =>
    show (Utf8.points (Utf8.items true (Utf8.encodeWide t)) 0 []).toOption = _
    rw [Utf8.items_encodeWide (.inl rfl), Utf8.points_map_point]
    rfl
  | utf16 bigEndian =>
    show ((units16? bigEndian ((utf16 bigEndian).encode t) []).map (joinUnits · [])) = _
    rw [units16?_encode, Option.map_some, List.reverse_nil, List.nil_append, joinUnits_units h]
    rfl
  | utf32 bigEndian => exact points32?_encode t []

/-! ASCII text -/

theorem toNat_of_plain {c : CodePoint} (h : c.val ≠ 0 ∧ c.val < 0x80) :
    (UInt8.ofNat c.val).toNat = c.val := by
  exact Utf8.toNat_octet (Nat.lt_trans h.2 (by decide))

theorem ofNat_ne_zero {c : CodePoint} (h : c.val ≠ 0 ∧ c.val < 0x80) : UInt8.ofNat c.val ≠ 0 := by
  intro hzero
  have hval := toNat_of_plain h
  rw [hzero] at hval
  exact h.1 hval.symm

theorem encodePoint_of_plain {c : CodePoint} (h : c.val ≠ 0 ∧ c.val < 0x80) :
    utf8.encodePoint c = [UInt8.ofNat c.val] ∧
      (utf16 true).encodePoint c = [0, UInt8.ofNat c.val] ∧
      (utf16 false).encodePoint c = [UInt8.ofNat c.val, 0] ∧
      (utf32 true).encodePoint c = [0, 0, 0, UInt8.ofNat c.val] ∧
      (utf32 false).encodePoint c = [UInt8.ofNat c.val, 0, 0, 0] := by
  have hsmall := h.2
  have hquotient : c.val / 256 = 0 := Nat.div_eq_of_lt (by omega)
  have hhigh : c.val / 65536 = 0 := Nat.div_eq_of_lt (by omega)
  have hlow : c.val % 65536 = c.val := Nat.mod_eq_of_lt (by omega)
  have hbasic : c.val < 0x10000 := by omega
  refine ⟨if_pos hsmall, ?_, ?_, ?_, ?_⟩
  · simp [encodePoint, pairOctets, hbasic, hquotient]
  · simp [encodePoint, pairOctets, hbasic, hquotient]
  · simp [encodePoint, pairOctets, hhigh, hlow, hquotient]
  · simp [encodePoint, pairOctets, hhigh, hlow, hquotient]

private theorem mem_encodePoint {e : Encoding} {c : CodePoint} (h : c.val ≠ 0 ∧ c.val < 0x80)
    {b : UInt8}
    (hb : b ∈ e.encodePoint c) : b.toNat < 0x80 := by
  have hval := toNat_of_plain h
  obtain ⟨h8, h16, h16', h32, h32'⟩ := encodePoint_of_plain h
  have hcases : b = 0 ∨ b = UInt8.ofNat c.val := by
    rcases e with _ | (_ | _) | (_ | _)
    · rw [h8] at hb
      exact .inr (List.mem_singleton.1 hb)
    · rw [h16'] at hb
      simpa [or_comm] using hb
    · rw [h16] at hb
      simpa using hb
    · rw [h32'] at hb
      simpa [or_comm] using hb
    · rw [h32] at hb
      simpa using hb
  rcases hcases with rfl | rfl
  · decide
  · rw [hval]
    exact h.2

private theorem detect_of_ascii {octets : Octets} (h : ∀ b ∈ octets, b.toNat < 0x80) :
    detect octets = (ofZeros octets, 0) := by
  have hmark {mark : Octets} {b : UInt8} (hb : b ∈ mark) (hlarge : 0x80 ≤ b.toNat) :
      mark.isPrefixOf octets = false := by
    rw [Bool.eq_false_iff]
    intro hprefix
    have hmem := (List.isPrefixOf_iff_prefix.1 hprefix).subset hb
    exact Nat.not_lt.2 hlarge (h b hmem)
  unfold detect
  rw [hmark (b := 0xFE) (by decide) (by decide), hmark (b := 0xFF) (by decide) (by decide),
    hmark (b := 0xFE) (by decide) (by decide), hmark (b := 0xFF) (by decide) (by decide),
    hmark (b := 0xEF) (by decide) (by decide)]
  rfl

private theorem ofZeros_utf8 {a : UInt8} (ha : a ≠ 0) {rest : Octets} (hrest : ∀ b ∈ rest, b ≠ 0) :
    ofZeros (a :: rest) = utf8 := by
  unfold ofZeros
  split
  next b c d rest' heq =>
    cases heq
    rw [if_neg ha, if_neg (hrest b List.mem_cons_self)]
  next b heq =>
    cases heq
    rw [if_neg ha, if_neg (hrest b List.mem_cons_self)]
  next => rfl

private theorem ofZeros_encode (e : Encoding) {c : CodePoint} {t : Text}
    (h : Text.IsPlainAscii (c :: t)) : ofZeros (e.encode (c :: t)) = e := by
  obtain ⟨hc, ht⟩ := List.forall_mem_cons.1 h
  have hzero := ofNat_ne_zero hc
  obtain ⟨h8, h16, h16', h32, h32'⟩ := encodePoint_of_plain hc
  rw [encode_cons]
  rcases e with _ | (_ | _) | (_ | _)
  · rw [h8]
    refine ofZeros_utf8 hzero fun b hb => ?_
    obtain ⟨d, hd, hb⟩ := List.mem_flatMap.1 hb
    rw [(encodePoint_of_plain (ht d hd)).1] at hb
    rw [List.mem_singleton.1 hb]
    exact ofNat_ne_zero (ht d hd)
  · rw [h16']
    cases t with
    | nil => simp [encode, ofZeros, hzero]
    | cons d t =>
      have hd := ht d List.mem_cons_self
      have hnext := ofNat_ne_zero hd
      rw [encode_cons, (encodePoint_of_plain hd).2.2.1]
      simp [ofZeros, hzero, hnext]
  · rw [h16]
    cases t with
    | nil => simp [encode, ofZeros]
    | cons d t =>
      rw [encode_cons, (encodePoint_of_plain (ht d List.mem_cons_self)).2.1]
      simp [ofZeros, hzero]
  · rw [h32']
    simp [ofZeros, hzero]
  · rw [h32]
    simp [ofZeros]

/-- ASCII text without zeros is read back from any encoding, without a statement which one it is. -/
theorem read?_encode (e : Encoding) {t : Text} (h : t.IsPlainAscii) :
    read? (e.encode t) = some t := by
  have hunpaired : t.IsUnpaired := .of_ascii fun c hc => decide_eq_true (h c hc).2
  have hascii : ∀ b ∈ e.encode t, b.toNat < 0x80 := by
    intro b hb
    obtain ⟨c, hc, hb⟩ := List.mem_flatMap.1 hb
    exact mem_encodePoint (h c hc) hb
  have hread : read? (e.encode t) = (ofZeros (e.encode t)).decode? (e.encode t) := by
    unfold read?
    rw [detect_of_ascii hascii]
    rfl
  rw [hread]
  cases t with
  | nil => rfl
  | cons c t =>
    rw [ofZeros_encode e h]
    exact decode?_encode e hunpaired

end NodePanel.Encoding
