import Mathlib.Algebra.Group.Nat.Defs
import Mathlib.Data.List.TakeDrop
import Mathlib.Data.List.TakeWhile
import NodePanel.Encoding.Utf8

/-!
The encoder and the decoder of UTF-8 are inverse on the texts that have octets at all, which are
those without surrogates, and decoding gives only such texts.
-/
namespace NodePanel.Utf8

def IsScalar (t : Text) : Prop := ∀ c ∈ t, c.isSurrogate = false

instance : DecidablePred IsScalar := fun t => inferInstanceAs (Decidable (∀ c ∈ t, _))

@[simp] theorem isScalar_cons_iff {c : CodePoint} {t : Text} :
    IsScalar (c :: t) ↔ c.isSurrogate = false ∧ IsScalar t :=
  List.forall_mem_cons

theorem find?_eq_none_iff {codec reason : Text} {bad more : CodePoint → Bool} {t : Text} :
    EncodeFault.find? codec reason bad more t = none ↔ ∀ c ∈ t, bad c = false := by
  have hdrop : t.dropWhile (!bad ·) = [] ↔ ∀ c ∈ t, bad c = false := by
    simp [List.dropWhile_eq_nil_iff]
  unfold EncodeFault.find?
  rw [List.span_eq_takeWhile_dropWhile, ← hdrop]
  cases t.dropWhile (!bad ·) with
  | nil => exact iff_of_true rfl rfl
  | cons c rest => exact iff_of_false nofun nofun

theorem encode_eq_ok {t : Text} (h : IsScalar t) : encode t = .ok (encodeWide t) := by
  have hfault : encodeFault? t = none := find?_eq_none_iff.2 h
  unfold encode
  rw [hfault]

/-! Reading what was written -/

theorem isScalar_of_encode {t : Text} {octets : Octets} (h : encode t = .ok octets) : IsScalar t := by
  unfold encode at h
  split at h
  next => contradiction
  next hfault => exact find?_eq_none_iff.1 hfault

theorem toNat_octet {n : Nat} (h : n < 0x100) : (UInt8.ofNat n).toNat = n :=
  UInt8.toNat_ofNat_of_lt h

theorem step_opens {surrogates : Bool} {b : UInt8} {pending : Pending} {done : List Item}
    (h : lead surrogates b = .opens pending) :
    step surrogates b (none, done) = (some pending, done) := by
  show begin surrogates b done = _
  unfold begin
  rw [h]

theorem step_continuation {surrogates : Bool} {p : Pending} {done : List Item} {bits : Nat}
    (hbits : bits < 0x40) (hlow : p.low ≤ 0x80 + bits) (hhigh : 0x80 + bits ≤ p.high) :
    step surrogates (UInt8.ofNat (0x80 + bits)) (some p, done) =
      if p.owed ≤ 1 then (none, .point (CodePoint.ofNat (p.value * 64 + bits)) :: done)
      else
        (some { value := p.value * 64 + bits, owed := p.owed - 1, low := 0x80, high := 0xBF,
                taken := UInt8.ofNat (0x80 + bits) :: p.taken }, done) := by
  have hoctet : (UInt8.ofNat (0x80 + bits)).toNat = 0x80 + bits := toNat_octet (by omega)
  simp only [step, hoctet]
  rw [if_pos (by simp [hlow, hhigh]), Nat.add_sub_cancel_left]

private theorem lead_of_two {surrogates : Bool} {n : Nat} (hlow : 2 ≤ n) (hhigh : n < 0x20) :
    lead surrogates (UInt8.ofNat (0xC0 + n)) =
      .opens { value := n, owed := 1, low := 0x80, high := 0xBF,
               taken := [UInt8.ofNat (0xC0 + n)] } := by
  have hoctet : (UInt8.ofNat (0xC0 + n)).toNat = 0xC0 + n := toNat_octet (by omega)
  simp only [lead, hoctet]
  rw [if_neg (by omega), if_neg (by omega), if_pos (by omega), Nat.add_sub_cancel_left]

def lowOfThree (n : Nat) : Nat := if n = 0 then 0xA0 else 0x80

def highOfThree (surrogates : Bool) (n : Nat) : Nat :=
  if n = 0xD then (if surrogates then 0xBF else 0x9F) else 0xBF

private theorem lead_of_three {surrogates : Bool} {n : Nat} (h : n < 0x10) :
    lead surrogates (UInt8.ofNat (0xE0 + n)) =
      .opens { value := n, owed := 2, low := lowOfThree n, high := highOfThree surrogates n,
               taken := [UInt8.ofNat (0xE0 + n)] } := by
  have hoctet : (UInt8.ofNat (0xE0 + n)).toNat = 0xE0 + n := toNat_octet (by omega)
  simp only [lead, hoctet, lowOfThree, highOfThree]
  rw [if_neg (by omega), if_neg (by omega), if_neg (by omega)]
  by_cases hzero : n = 0
  · subst hzero
    rfl
  · rw [if_neg (by omega), if_neg hzero]
    by_cases hd : n = 0xD
    · subst hd
      rfl
    · rw [if_neg (by omega), if_pos (by omega), if_neg hd, Nat.add_sub_cancel_left]

def lowOfFour (n : Nat) : Nat := if n = 0 then 0x90 else 0x80

def highOfFour (n : Nat) : Nat := if n = 4 then 0x8F else 0xBF

private theorem lead_of_four {surrogates : Bool} {n : Nat} (h : n ≤ 4) :
    lead surrogates (UInt8.ofNat (0xF0 + n)) =
      .opens { value := n, owed := 3, low := lowOfFour n, high := highOfFour n,
               taken := [UInt8.ofNat (0xF0 + n)] } := by
  have hoctet : (UInt8.ofNat (0xF0 + n)).toNat = 0xF0 + n := toNat_octet (by omega)
  simp only [lead, hoctet, lowOfFour, highOfFour]
  rw [if_neg (by omega), if_neg (by omega), if_neg (by omega), if_neg (by omega),
    if_neg (by omega), if_neg (by omega)]
  by_cases hzero : n = 0
  · subst hzero
    rfl
  · rw [if_neg (by omega), if_neg hzero]
    by_cases hfour : n = 4
    · subst hfour
      rfl
    · rw [if_pos (by omega), if_neg hfour, Nat.add_sub_cancel_left]

def feed (surrogates : Bool) (octets : Octets) (state : Option Pending × List Item) :
    Option Pending × List Item :=
  octets.foldl (fun state b => step surrogates b state) state

@[simp] theorem feed_cons (surrogates : Bool) (b : UInt8) (octets : Octets)
    (state : Option Pending × List Item) :
    feed surrogates (b :: octets) state = feed surrogates octets (step surrogates b state) :=
  rfl

section Forms

variable {surrogates : Bool} {done : List Item} {a b c d : Nat}

private theorem feed_one (h : a < 0x80) :
    feed surrogates [UInt8.ofNat a] (none, done) = (none, .point (CodePoint.ofNat a) :: done) := by
  have hoctet : (UInt8.ofNat a).toNat = a := toNat_octet (by omega)
  simp [feed, step, begin, lead, hoctet, h]

private theorem feed_two (hlow : 2 ≤ a) (ha : a < 0x20) (hb : b < 0x40) :
    feed surrogates [UInt8.ofNat (0xC0 + a), UInt8.ofNat (0x80 + b)] (none, done) =
      (none, .point (CodePoint.ofNat (a * 64 + b)) :: done) := by
  simp only [feed, List.foldl_cons, List.foldl_nil]
  rw [step_opens (lead_of_two hlow ha), step_continuation hb (by dsimp only; omega)
    (by dsimp only; omega)]
  rfl

private theorem feed_three (ha : a < 0x10) (hb : b < 0x40) (hc : c < 0x40)
    (hlow : lowOfThree a ≤ 0x80 + b) (hhigh : 0x80 + b ≤ highOfThree surrogates a) :
    feed surrogates [UInt8.ofNat (0xE0 + a), UInt8.ofNat (0x80 + b), UInt8.ofNat (0x80 + c)]
        (none, done) =
      (none, .point (CodePoint.ofNat ((a * 64 + b) * 64 + c)) :: done) := by
  simp only [feed, List.foldl_cons, List.foldl_nil]
  rw [step_opens (lead_of_three ha), step_continuation hb hlow hhigh, if_neg (by dsimp only; omega),
    step_continuation hc (by dsimp only; omega) (by dsimp only; omega)]
  rfl

private theorem feed_four (ha : a ≤ 4) (hb : b < 0x40) (hc : c < 0x40) (hd : d < 0x40)
    (hlow : lowOfFour a ≤ 0x80 + b) (hhigh : 0x80 + b ≤ highOfFour a) :
    feed surrogates [UInt8.ofNat (0xF0 + a), UInt8.ofNat (0x80 + b), UInt8.ofNat (0x80 + c),
        UInt8.ofNat (0x80 + d)] (none, done) =
      (none, .point (CodePoint.ofNat (((a * 64 + b) * 64 + c) * 64 + d)) :: done) := by
  simp only [feed, List.foldl_cons, List.foldl_nil]
  rw [step_opens (lead_of_four ha), step_continuation hb hlow hhigh, if_neg (by dsimp only; omega),
    step_continuation hc (by dsimp only; omega) (by dsimp only; omega),
    if_neg (by dsimp only; omega),
    step_continuation hd (by dsimp only; omega) (by dsimp only; omega)]
  rfl

end Forms

private theorem lowOfThree_le {n : Nat} (hlow : 0x800 ≤ n) (hhigh : n < 0x10000) :
    lowOfThree (n / 0x1000) ≤ 0x80 + n / 0x40 % 0x40 := by
  unfold lowOfThree
  split <;> omega

private theorem le_highOfThree {surrogates : Bool} {c : CodePoint} (hlt : c.val < 0x10000)
    (h : surrogates = true ∨ c.isSurrogate = false) :
    0x80 + c.val / 0x40 % 0x40 ≤ highOfThree surrogates (c.val / 0x1000) := by
  unfold highOfThree
  rcases h with rfl | h
  · simp only [if_true, ite_self]
    omega
  · simp only [CodePoint.isSurrogate, Bool.and_eq_false_iff, decide_eq_false_iff_not] at h
    split
    · split <;> omega
    · omega

private theorem lowOfFour_le {n : Nat} (hlow : 0x10000 ≤ n) :
    lowOfFour (n / 0x40000) ≤ 0x80 + n / 0x1000 % 0x40 := by
  unfold lowOfFour
  split <;> omega

private theorem le_highOfFour {n : Nat} (hhigh : n < 0x110000) :
    0x80 + n / 0x1000 % 0x40 ≤ highOfFour (n / 0x40000) := by
  unfold highOfFour
  split <;> omega

private theorem feed_encodePoint {surrogates : Bool} {c : CodePoint} {done : List Item}
    (h : surrogates = true ∨ c.isSurrogate = false) :
    feed surrogates (encodePoint c) (none, done) = (none, .point c :: done) := by
  have hlt := c.isLt
  unfold encodePoint
  simp only [Nat.div_one]
  split
  next hone => rw [feed_one hone, CodePoint.ofNat_val]
  next hone =>
    split
    next htwo =>
      have hvalue : c.val / 0x40 * 64 + c.val % 0x40 = c.val := by omega
      rw [feed_two (by omega) (by omega) (by omega), hvalue, CodePoint.ofNat_val]
    next htwo =>
      split
      next hthree =>
        have hvalue : (c.val / 0x1000 * 64 + c.val / 0x40 % 0x40) * 64 + c.val % 0x40 = c.val := by
          omega
        rw [feed_three (by omega) (by omega) (by omega) (lowOfThree_le (by omega) hthree)
          (le_highOfThree hthree h), hvalue, CodePoint.ofNat_val]
      next hthree =>
        have hvalue : ((c.val / 0x40000 * 64 + c.val / 0x1000 % 0x40) * 64
            + c.val / 0x40 % 0x40) * 64 + c.val % 0x40 = c.val := by
          omega
        rw [feed_four (by omega) (by omega) (by omega) (by omega) (lowOfFour_le (by omega))
          (le_highOfFour hlt), hvalue, CodePoint.ofNat_val]

private theorem feed_encodeWide {surrogates : Bool} {t : Text} {done : List Item}
    (h : surrogates = true ∨ IsScalar t) :
    feed surrogates (encodeWide t) (none, done) = (none, (t.map Item.point).reverse ++ done) := by
  induction t generalizing done with
  | nil => rfl
  | cons c t ih =>
    have happend : feed surrogates (encodeWide (c :: t)) (none, done) =
        feed surrogates (encodeWide t) (feed surrogates (encodePoint c) (none, done)) := by
      simp [feed, encodeWide]
    have hc : surrogates = true ∨ c.isSurrogate = false :=
      h.imp_right fun h => (isScalar_cons_iff.1 h).1
    rw [happend, feed_encodePoint hc, ih (h.imp_right fun h => (isScalar_cons_iff.1 h).2)]
    simp

theorem items_encodeWide {surrogates : Bool} {t : Text} (h : surrogates = true ∨ IsScalar t) :
    items surrogates (encodeWide t) = t.map Item.point := by
  show finish (feed surrogates (encodeWide t) (none, [])) = _
  rw [feed_encodeWide h]
  simp [finish]

@[simp] theorem points_map_point (t : Text) (offset : Nat) (done : Text) :
    points (t.map Item.point) offset done = .ok (done.reverse ++ t) := by
  induction t generalizing offset done with
  | nil => simp [points]
  | cons c t ih =>
    rw [List.map_cons, points, ih]
    simp

theorem decode_encodeWide {t : Text} (h : IsScalar t) : decode (encodeWide t) = .ok t := by
  unfold decode
  rw [items_encodeWide (.inr h), points_map_point]
  rfl

/-! What can be read has octets -/

/-- No value that a pending code point can still take is a surrogate. -/
def Pending.Avoids (p : Pending) : Prop :=
  (p.value * 64 + (p.high - 0x80) + 1) * 64 ^ (p.owed - 1) ≤ 0xD800 ∨
    0xE000 ≤ (p.value * 64 + (p.low - 0x80)) * 64 ^ (p.owed - 1)

def AvoidsSurrogates (state : Option Pending × List Item) : Prop :=
  (∀ p, state.1 = some p → p.Avoids) ∧ ∀ c, .point c ∈ state.2 → c.isSurrogate = false

theorem isSurrogate_ofNat {n : Nat} (h : n < 0xD800 ∨ 0xE000 ≤ n) :
    (CodePoint.ofNat n).isSurrogate = false := by
  unfold CodePoint.ofNat CodePoint.isSurrogate
  split
  next =>
    simp only [Bool.and_eq_false_iff, decide_eq_false_iff_not]
    omega
  next => rfl

private theorem avoids_of_lead {b : UInt8} {p : Pending} (h : lead false b = .opens p) :
    p.Avoids := by
  have hlt := b.toNat_lt
  simp only [lead] at h
  repeat' split at h
  all_goals first
    | contradiction
    | rw [← Lead.opens.inj h]
      simp only [Pending.Avoids, Nat.reduceSub, Nat.reducePow, Nat.reduceMul]
      omega

theorem avoidsSurrogates_begin {b : UInt8} {done : List Item}
    (hdone : ∀ c, .point c ∈ done → c.isSurrogate = false) :
    AvoidsSurrogates (begin false b done) := by
  unfold begin
  cases hlead : lead false b with
  | whole c =>
    refine ⟨nofun, fun c' hc' => ?_⟩
    rcases List.mem_cons.1 hc' with hc' | hc'
    · have hb : c = CodePoint.ofNat b.toNat ∧ b.toNat < 0x80 := by
        simp only [lead] at hlead
        repeat' split at hlead
        all_goals first
          | contradiction
          | exact ⟨(Lead.whole.inj hlead).symm, by assumption⟩
      rw [Item.point.inj hc', hb.1]
      exact isSurrogate_ofNat (.inl (by omega))
    · exact hdone c' hc'
  | opens p =>
    refine ⟨fun p' hp' => ?_, hdone⟩
    rw [← Option.some.inj hp']
    exact avoids_of_lead hlead
  | invalid =>
    refine ⟨nofun, fun c hc => ?_⟩
    rcases List.mem_cons.1 hc with hc | hc
    · contradiction
    · exact hdone c hc

theorem AvoidsSurrogates.step {state : Option Pending × List Item} (h : AvoidsSurrogates state)
    (b : UInt8) : AvoidsSurrogates (step false b state) := by
  obtain ⟨pending, done⟩ := state
  obtain ⟨hpending, hdone⟩ := h
  cases pending with
  | none => exact avoidsSurrogates_begin hdone
  | some p =>
    have hp : p.Avoids := hpending p rfl
    unfold Utf8.step
    dsimp only
    split
    next hbounds =>
      simp only [Bool.and_eq_true, decide_eq_true_eq] at hbounds
      unfold Pending.Avoids at hp
      split
      next howed =>
        refine ⟨nofun, fun c hc => ?_⟩
        rcases List.mem_cons.1 hc with hc | hc
        · rw [Item.point.inj hc]
          rw [Nat.sub_eq_zero_of_le howed, Nat.pow_zero, Nat.mul_one, Nat.mul_one] at hp
          apply isSurrogate_ofNat
          omega
        · exact hdone c hc
      next howed =>
        refine ⟨fun p' hp' => ?_, hdone⟩
        rw [← Option.some.inj hp']
        have hpow : 64 ^ (p.owed - 1) = 64 * 64 ^ (p.owed - 1 - 1) := by
          rw [← Nat.pow_succ']
          congr 1
          omega
        unfold Pending.Avoids
        rw [hpow] at hp
        generalize 64 ^ (p.owed - 1 - 1) = unit at hp ⊢
        -- the octet read narrows the range of values down to a part of it
        rcases hp with hp | hp
        · left
          refine Nat.le_trans ?_ hp
          rw [← Nat.mul_assoc]
          exact Nat.mul_le_mul_right unit (by dsimp only; omega)
        · right
          refine Nat.le_trans hp ?_
          rw [← Nat.mul_assoc]
          exact Nat.mul_le_mul_right unit (by dsimp only; omega)
    next =>
      refine avoidsSurrogates_begin fun c hc => ?_
      rcases List.mem_cons.1 hc with hc | hc
      · contradiction
      · exact hdone c hc

theorem AvoidsSurrogates.feed {state : Option Pending × List Item} (h : AvoidsSurrogates state)
    (octets : Octets) : AvoidsSurrogates (feed false octets state) := by
  induction octets generalizing state with
  | nil => exact h
  | cons b octets ih => exact ih (h.step b)

private theorem isSurrogate_of_mem_items {octets : Octets} {c : CodePoint}
    (h : .point c ∈ items false octets) : c.isSurrogate = false := by
  have hstart : AvoidsSurrogates (none, []) := by
    constructor
    · intro p hp
      contradiction
    · intro c hc
      contradiction
  have hfed : AvoidsSurrogates (feed false octets (none, [])) := hstart.feed octets
  unfold items at h
  change .point c ∈ finish (feed false octets (none, [])) at h
  generalize feed false octets (none, []) = state at h hfed
  obtain ⟨pending, done⟩ := state
  cases pending with
  | none => exact hfed.2 c (List.mem_reverse.1 h)
  | some p =>
    rcases List.mem_cons.1 (List.mem_reverse.1 h) with h | h
    · contradiction
    · exact hfed.2 c h

private theorem mem_of_points {found : List Item} {offset : Nat} {done t : Text}
    (h : points found offset done = .ok t) {c : CodePoint} (hc : c ∈ t) :
    .point c ∈ found ∨ c ∈ done := by
  induction found generalizing offset done with
  | nil =>
    cases h
    exact .inr (List.mem_reverse.1 hc)
  | cons item found ih =>
    cases item with
    | point d =>
      rcases ih h with hfound | hdone
      · exact .inl (List.mem_cons_of_mem _ hfound)
      · rcases List.mem_cons.1 hdone with rfl | hdone
        · exact .inl List.mem_cons_self
        · exact .inr hdone
    | malformed octets malformation => contradiction

theorem isScalar_of_decode {octets : Octets} {t : Text} (h : decode octets = .ok t) :
    IsScalar t := by
  intro c hc
  rcases mem_of_points h hc with hitem | hnil
  · exact isSurrogate_of_mem_items hitem
  · contradiction

end NodePanel.Utf8
