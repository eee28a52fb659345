import NodePanel.Proofs.Encoding.Utf8

/-!
Octets that are read whatever they are. Where no code point stands, one replacement takes the place of
the longest run that some code point begins with, or of one octet that begins none.
-/
namespace NodePanel.Utf8

def Begins (run : Octets) : Prop := ∃ c : CodePoint, c.isSurrogate = false ∧ run <+: encodePoint c

inductive ReadsLossily : Octets → Text → Prop where
  | nil : ReadsLossily [] []
  | point {c : CodePoint} {rest : Octets} {t : Text} (hc : c.isSurrogate = false)
      (h : ReadsLossily rest t) : ReadsLossily (encodePoint c ++ rest) (c :: t)
  | run {run rest : Octets} {t : Text} (hne : run ≠ []) (hbegins : Begins run)
      (hpart : ∀ c : CodePoint, c.isSurrogate = false → encodePoint c ≠ run)
      (hlongest : ∀ b ∈ rest.head?, ¬ Begins (run ++ [b])) (h : ReadsLossily rest t) :
      ReadsLossily (run ++ rest) (CodePoint.replacement :: t)
  | octet {b : UInt8} {rest : Octets} {t : Text} (hb : ¬ Begins [b]) (h : ReadsLossily rest t) :
      ReadsLossily (b :: rest) (CodePoint.replacement :: t)

/-! The octets of a code point -/

def continuation : Nat → Nat → Octets
  | 0, _ => []
  | k + 1, n => UInt8.ofNat (0x80 + n / 64 ^ k % 64) :: continuation k n

def leadOctet (n : Nat) : Nat :=
  if n < 0x80 then n
  else if n < 0x800 then 0xC0 + n / 0x40
  else if n < 0x10000 then 0xE0 + n / 0x1000
  else 0xF0 + n / 0x40000

def tailCount (n : Nat) : Nat :=
  if n < 0x80 then 0 else if n < 0x800 then 1 else if n < 0x10000 then 2 else 3

theorem encodePoint_eq (c : CodePoint) :
    encodePoint c = UInt8.ofNat (leadOctet c.val) :: continuation (tailCount c.val) c.val := by
  unfold encodePoint leadOctet tailCount
  dsimp only
  split
  · rfl
  · split
    · rfl
    · split <;> rfl

private theorem leadOctet_lt (c : CodePoint) : leadOctet c.val < 0x100 := by
  have hlt := c.isLt
  unfold leadOctet
  repeat' split
  all_goals omega

theorem singleton_isPrefix_iff {b : UInt8} {c : CodePoint} :
    [b] <+: encodePoint c ↔ leadOctet c.val = b.toNat := by
  rw [encodePoint_eq, List.cons_prefix_cons, and_iff_left List.nil_prefix]
  constructor
  · rintro rfl
    rw [toNat_octet (leadOctet_lt c)]
  · intro h
    rw [h, UInt8.ofNat_toNat]

/-! Code points that are read in part -/

/-- The numbers of which the octets read so far are the first ones. -/
def Pending.Covers (p : Pending) (n : Nat) : Prop :=
  p.value * 64 + (p.low - 0x80) ≤ n / 64 ^ (p.owed - 1) ∧
    n / 64 ^ (p.owed - 1) ≤ p.value * 64 + (p.high - 0x80)

/-- The octets read so far are a part of those of some code points, and of no others. -/
structure Pending.IsPart (p : Pending) : Prop where
  taken_ne_nil : p.taken ≠ []
  owed_pos : 0 < p.owed
  le_low : 0x80 ≤ p.low
  low_le_high : p.low ≤ p.high
  high_le : p.high ≤ 0xBF
  lt_of_covers : ∀ n, p.Covers n → n < 0x110000
  encodePoint_eq : ∀ c : CodePoint, p.Covers c.val →
    c.isSurrogate = false ∧ encodePoint c = p.taken.reverse ++ continuation p.owed c.val
  covers : ∀ c : CodePoint, c.isSurrogate = false → p.taken.reverse <+: encodePoint c → p.Covers c.val

theorem covers_iff_of_lead {b : UInt8} {p : Pending} (h : lead false b = .opens p) (c : CodePoint) :
    p.Covers c.val ↔ c.isSurrogate = false ∧ leadOctet c.val = b.toNat := by
  have hlt := c.isLt
  have hb := b.toNat_lt
  simp only [lead] at h
  repeat' split at h
  all_goals first
    | contradiction
    | rw [← Lead.opens.inj h]
      simp only [Pending.Covers, leadOctet, CodePoint.isSurrogate, Bool.and_eq_false_iff,
        decide_eq_false_iff_not, Nat.reduceSub, Nat.reducePow]
      repeat' split
      all_goals omega

theorem taken_of_lead {b : UInt8} {p : Pending} (h : lead false b = .opens p) : p.taken = [b] := by
  simp only [lead] at h
  repeat' split at h
  all_goals first
    | contradiction
    | rw [← Lead.opens.inj h]

private theorem isPart_of_lead {b : UInt8} {p : Pending} (h : lead false b = .opens p) :
    p.IsPart := by
  have htaken := taken_of_lead h
  have hform : p.taken ≠ [] ∧ 0 < p.owed ∧ 0x80 ≤ p.low ∧ p.low ≤ p.high ∧ p.high ≤ 0xBF ∧
      ∀ n, p.Covers n → n < 0x110000 ∧ tailCount n = p.owed := by
    have hb := b.toNat_lt
    simp only [lead] at h
    repeat' split at h
    all_goals first
      | contradiction
      | rw [← Lead.opens.inj h]
        refine ⟨List.cons_ne_nil _ _, Nat.succ_pos _, ?_, ?_, ?_, fun n hn => ?_⟩
        any_goals exact Nat.le_of_ble_eq_true rfl
        simp only [Pending.Covers, Nat.reduceSub, Nat.reducePow] at hn
        simp only [tailCount]
        repeat' split
        all_goals omega
  obtain ⟨hne, howed, hlow, hbounds, hhigh, hcovered⟩ := hform
  refine ⟨hne, howed, hlow, hbounds, hhigh, fun n hn => (hcovered n hn).1, fun c hc => ?_,
    fun c hscalar hprefix => ?_⟩
  · obtain ⟨hscalar, hlead⟩ := (covers_iff_of_lead h c).1 hc
    refine ⟨hscalar, ?_⟩
    rw [Utf8.encodePoint_eq, (hcovered _ hc).2, htaken, hlead, UInt8.ofNat_toNat]
    rfl
  · rw [htaken] at hprefix
    exact (covers_iff_of_lead h c).2 ⟨hscalar, singleton_isPrefix_iff.1 hprefix⟩

def Pending.next (p : Pending) (b : UInt8) : Pending where
  value := p.value * 64 + (b.toNat - 0x80)
  owed := p.owed - 1
  low := 0x80
  high := 0xBF
  taken := b :: p.taken

namespace Pending.IsPart

variable {p : Pending} {b : UInt8} {n : Nat}

theorem continuation_eq (h : p.IsPart) (n : Nat) : continuation p.owed n =
    UInt8.ofNat (0x80 + n / 64 ^ (p.owed - 1) % 64) :: continuation (p.owed - 1) n := by
  obtain ⟨k, hk⟩ := Nat.exists_eq_succ_of_ne_zero (Nat.ne_of_gt h.owed_pos)
  rw [hk]
  rfl

theorem covers_of_bounds (hn : n / 64 ^ (p.owed - 1) = p.value * 64 + (b.toNat - 0x80))
    (hlow : p.low ≤ b.toNat) (hhigh : b.toNat ≤ p.high) : p.Covers n := by
  unfold Covers
  rw [hn]
  exact ⟨Nat.add_le_add_left (Nat.sub_le_sub_right hlow _) _,
    Nat.add_le_add_left (Nat.sub_le_sub_right hhigh _) _⟩

/-- One more octet is that of a code point if the number of the code point names it next. -/
theorem append_isPrefix_iff (h : p.IsPart) {c : CodePoint} (hc : p.Covers c.val) :
    p.taken.reverse ++ [b] <+: encodePoint c ↔
      UInt8.ofNat (0x80 + c.val / 64 ^ (p.owed - 1) % 64) = b := by
  obtain ⟨-, hcode⟩ := h.encodePoint_eq c hc
  rw [hcode, List.prefix_append_right_inj, h.continuation_eq, List.cons_prefix_cons,
    and_iff_left List.nil_prefix, eq_comm]

theorem encodePoint_ne (h : p.IsPart) (c : CodePoint) (hc : c.isSurrogate = false) :
    encodePoint c ≠ p.taken.reverse := by
  intro heq
  obtain ⟨-, hcode⟩ := h.encodePoint_eq c (h.covers c hc (heq ▸ List.prefix_rfl))
  rw [heq, h.continuation_eq] at hcode
  simpa using congrArg List.length hcode

theorem octet_eq_iff (h : p.IsPart) (hn : p.Covers n) :
    UInt8.ofNat (0x80 + n / 64 ^ (p.owed - 1) % 64) = b ↔
      0x80 ≤ b.toNat ∧ n / 64 ^ (p.owed - 1) = p.value * 64 + (b.toNat - 0x80) := by
  obtain ⟨hlow, hhigh⟩ := hn
  have hle := h.high_le
  generalize n / 64 ^ (p.owed - 1) = m at hlow hhigh ⊢
  have hoctet : (UInt8.ofNat (0x80 + m % 64)).toNat = 0x80 + m % 64 := toNat_octet (by omega)
  rw [← UInt8.toNat_inj, hoctet]
  omega

theorem begins_append_iff (h : p.IsPart) :
    Begins (p.taken.reverse ++ [b]) ↔ p.low ≤ b.toNat ∧ b.toNat ≤ p.high := by
  have hle := h.le_low
  constructor
  · rintro ⟨c, hc, hprefix⟩
    have hcovers := h.covers c hc ((List.prefix_append _ _).trans hprefix)
    obtain ⟨hb, heq⟩ := (h.octet_eq_iff hcovers).1 ((h.append_isPrefix_iff hcovers).1 hprefix)
    obtain ⟨hlow, hhigh⟩ := hcovers
    have hbounds := h.low_le_high
    omega
  · rintro ⟨hlow, hhigh⟩
    let n := (p.value * 64 + (b.toNat - 0x80)) * 64 ^ (p.owed - 1)
    have hn : n / 64 ^ (p.owed - 1) = p.value * 64 + (b.toNat - 0x80) :=
      Nat.mul_div_cancel _ (Nat.pow_pos (by decide))
    have hcovers : p.Covers n := covers_of_bounds hn hlow hhigh
    obtain ⟨hc, -⟩ := h.encodePoint_eq ⟨n, h.lt_of_covers n hcovers⟩ hcovers
    refine ⟨_, hc, (h.append_isPrefix_iff hcovers).2 ?_⟩
    exact (h.octet_eq_iff hcovers).2 ⟨hle.trans hlow, hn⟩

theorem begins (h : p.IsPart) : Begins p.taken.reverse := by
  have hlow : (UInt8.ofNat p.low).toNat = p.low :=
    toNat_octet (by have := h.low_le_high; have := h.high_le; omega)
  have hnext : Begins (p.taken.reverse ++ [UInt8.ofNat p.low]) :=
    h.begins_append_iff.2 ⟨hlow.ge, hlow.trans_le h.low_le_high⟩
  obtain ⟨c, hc, hprefix⟩ := hnext
  exact ⟨c, hc, (List.prefix_append _ _).trans hprefix⟩

theorem covers_next_iff (h : p.IsPart) (howed : 1 < p.owed) (hlow : p.low ≤ b.toNat)
    (hhigh : b.toNat ≤ p.high) :
    (p.next b).Covers n ↔ p.Covers n ∧
      UInt8.ofNat (0x80 + n / 64 ^ (p.owed - 1) % 64) = b := by
  have hunit : 64 ^ (p.owed - 1) = 64 ^ (p.owed - 1 - 1) * 64 := by
    rw [← Nat.pow_succ]
    congr 1
    omega
  have hblock : (p.next b).Covers n ↔
      n / 64 ^ (p.owed - 1) = p.value * 64 + (b.toNat - 0x80) := by
    unfold Covers next
    rw [hunit, ← Nat.div_div_eq_div_mul]
    dsimp only
    omega
  rw [hblock]
  constructor
  · intro hn
    have hcovers : p.Covers n := covers_of_bounds hn hlow hhigh
    exact ⟨hcovers, (h.octet_eq_iff hcovers).2 ⟨h.le_low.trans hlow, hn⟩⟩
  · rintro ⟨hcovers, hb⟩
    exact ((h.octet_eq_iff hcovers).1 hb).2

theorem next (h : p.IsPart) (howed : 1 < p.owed) (hlow : p.low ≤ b.toNat)
    (hhigh : b.toNat ≤ p.high) : (p.next b).IsPart where
  taken_ne_nil := List.cons_ne_nil _ _
  owed_pos := Nat.sub_pos_of_lt howed
  le_low := Nat.le_refl _
  low_le_high := (by decide : 0x80 ≤ 0xBF)
  high_le := Nat.le_refl _
  lt_of_covers n hn := h.lt_of_covers n ((h.covers_next_iff howed hlow hhigh).1 hn).1
  encodePoint_eq c hc := by
    have hiff := @covers_next_iff p b c.val h howed hlow hhigh
    obtain ⟨hcovers, hb⟩ := hiff.1 hc
    obtain ⟨hscalar, hcode⟩ := h.encodePoint_eq c hcovers
    refine ⟨hscalar, ?_⟩
    have htaken : (p.next b).taken.reverse = p.taken.reverse ++ [b] := List.reverse_cons
    rw [hcode, h.continuation_eq, hb, htaken, List.append_assoc]
    rfl
  covers c hc hprefix := by
    have htaken : (p.next b).taken.reverse = p.taken.reverse ++ [b] := List.reverse_cons
    rw [htaken] at hprefix
    have hcovers := h.covers c hc ((List.prefix_append _ _).trans hprefix)
    exact (h.covers_next_iff howed hlow hhigh).2 ⟨hcovers, (h.append_isPrefix_iff hcovers).1 hprefix⟩

private theorem encodePoint_last (h : p.IsPart) (howed : p.owed ≤ 1) (hlow : p.low ≤ b.toNat)
    (hhigh : b.toNat ≤ p.high) :
    ∃ c, CodePoint.ofNat (p.value * 64 + (b.toNat - 0x80)) = c ∧ c.isSurrogate = false ∧
      encodePoint c = p.taken.reverse ++ [b] := by
  have howed : p.owed = 1 := Nat.le_antisymm howed h.owed_pos
  let n := p.value * 64 + (b.toNat - 0x80)
  have hn : n / 64 ^ (p.owed - 1) = n := by simp [howed]
  have hcovers : p.Covers n := covers_of_bounds hn hlow hhigh
  have hlt := h.lt_of_covers n hcovers
  obtain ⟨hscalar, hcode⟩ := h.encodePoint_eq ⟨n, hlt⟩ hcovers
  refine ⟨⟨n, hlt⟩, dif_pos hlt, hscalar, ?_⟩
  rw [hcode, h.continuation_eq, (h.octet_eq_iff hcovers).2 ⟨h.le_low.trans hlow, hn⟩, howed]
  rfl

end Pending.IsPart

private theorem begins_iff_of_lead {b : UInt8} :
    Begins [b] ↔ ∃ c : CodePoint, c.isSurrogate = false ∧ leadOctet c.val = b.toNat :=
  exists_congr fun _ => and_congr_right fun _ => singleton_isPrefix_iff

private theorem not_begins_of_lead {b : UInt8} (h : lead false b = .invalid) : ¬ Begins [b] := by
  rw [begins_iff_of_lead]
  rintro ⟨c, -, hlead⟩
  have hlt := c.isLt
  simp only [lead] at h
  unfold leadOctet at hlead
  repeat' split at h
  all_goals first
    | contradiction
    | repeat' split at hlead
      all_goals omega

private theorem encodePoint_of_lead {b : UInt8} {c : CodePoint} (h : lead false b = .whole c) :
    c.isSurrogate = false ∧ encodePoint c = [b] := by
  have hb : b.toNat < 0x80 ∧ c = CodePoint.ofNat b.toNat := by
    simp only [lead] at h
    repeat' split at h
    all_goals first
      | contradiction
      | exact ⟨by assumption, (Lead.whole.inj h).symm⟩
  obtain ⟨hlt, rfl⟩ := hb
  have hval : (CodePoint.ofNat b.toNat).val = b.toNat := by
    have hpoint : b.toNat < 0x110000 := by omega
    simp [CodePoint.ofNat, hpoint]
  refine ⟨isSurrogate_ofNat (.inl (by omega)), ?_⟩
  unfold encodePoint
  simp [hval, hlt]

/-! What is read -/

def openOctets : Option Pending → Octets
  | none => []
  | some p => p.taken.reverse

def shown : Item → CodePoint
  | .point c => c
  | .malformed _ _ => CodePoint.replacement

/-- Reading goes on from a state as the text says that the octets are read as. -/
def Continues (octets : Octets) (state : Option Pending × List Item) : Prop :=
  ∃ t, ReadsLossily (openOctets state.1 ++ octets) t ∧
    (finish (feed false octets state)).map shown = state.2.reverse.map shown ++ t

def IsOpen (pending : Option Pending) : Prop := ∀ p ∈ pending, p.IsPart

theorem isOpen_none : IsOpen none := nofun

theorem isOpen_some {p : Pending} (h : p.IsPart) : IsOpen (some p) := by
  rintro _ ⟨⟩
  exact h

theorem continues_begin {b : UInt8} {octets : Octets}
    (ih : ∀ state, IsOpen state.1 → Continues octets state) (done : List Item) :
    ∃ t, ReadsLossily (b :: octets) t ∧
      (finish (feed false octets (begin false b done))).map shown = done.reverse.map shown ++ t := by
  unfold begin
  cases hlead : lead false b with
  | whole c =>
    obtain ⟨hscalar, hcode⟩ := encodePoint_of_lead hlead
    obtain ⟨t, hreads, hfinish⟩ := ih (none, .point c :: done) isOpen_none
    refine ⟨c :: t, ?_, by simpa [shown] using hfinish⟩
    have hpoint := hreads.point hscalar
    rwa [hcode] at hpoint
  | opens p =>
    obtain ⟨t, hreads, hfinish⟩ := ih (some p, done) (isOpen_some (isPart_of_lead hlead))
    refine ⟨t, ?_, hfinish⟩
    have htaken : p.taken = [b] := taken_of_lead hlead
    rwa [openOctets, htaken] at hreads
  | invalid =>
    obtain ⟨t, hreads, hfinish⟩ := ih (none, .malformed [b] .start :: done) isOpen_none
    exact ⟨_, hreads.octet (not_begins_of_lead hlead), by simpa [shown] using hfinish⟩

section Step

variable {p : Pending} {b : UInt8} {octets : Octets} {done : List Item} (hpart : p.IsPart)
  (ih : ∀ state, IsOpen state.1 → Continues octets state)

include hpart ih

private theorem continues_last (hlow : p.low ≤ b.toNat) (hhigh : b.toNat ≤ p.high)
    (howed : p.owed ≤ 1) :
    Continues (b :: octets) (some p, done) := by
  obtain ⟨c, hc, hscalar, hcode⟩ := hpart.encodePoint_last howed hlow hhigh
  obtain ⟨t, hreads, hfinish⟩ := ih (none, .point c :: done) isOpen_none
  have hstep : step false b (some p, done) = (none, .point c :: done) := by
    simp [step, hlow, hhigh, howed, hc]
  have hpoint := hreads.point hscalar
  rw [hcode, List.append_assoc] at hpoint
  refine ⟨c :: t, hpoint, ?_⟩
  rw [feed_cons, hstep]
  simpa [shown] using hfinish

private theorem continues_next (hlow : p.low ≤ b.toNat) (hhigh : b.toNat ≤ p.high)
    (howed : ¬ p.owed ≤ 1) :
    Continues (b :: octets) (some p, done) := by
  have hnext := hpart.next (Nat.lt_of_not_le howed) hlow hhigh
  obtain ⟨t, hreads, hfinish⟩ := ih (some (p.next b), done) (isOpen_some hnext)
  have hstep : step false b (some p, done) = (some (p.next b), done) := by
    unfold step
    exact (if_pos (by simp [hlow, hhigh])).trans (if_neg howed)
  change ReadsLossily ((b :: p.taken).reverse ++ octets) t at hreads
  rw [List.reverse_cons, List.append_assoc] at hreads
  refine ⟨t, hreads, ?_⟩
  rw [feed_cons, hstep]
  exact hfinish

private theorem continues_broken (hbounds : ¬ (p.low ≤ b.toNat ∧ b.toNat ≤ p.high)) :
    Continues (b :: octets) (some p, done) := by
  have hstep : step false b (some p, done) =
      begin false b (.malformed p.taken.reverse .continuation :: done) := by
    unfold step
    exact if_neg (by simpa using hbounds)
  have hlongest : ∀ d ∈ (b :: octets).head?, ¬ Begins (p.taken.reverse ++ [d]) := by
    rintro _ ⟨⟩ hbegins
    exact hbounds (hpart.begins_append_iff.1 hbegins)
  obtain ⟨t, hreads, hfinish⟩ :=
    continues_begin ih (.malformed p.taken.reverse .continuation :: done)
  refine ⟨_, .run (List.reverse_ne_nil_iff.2 hpart.taken_ne_nil) hpart.begins hpart.encodePoint_ne
    hlongest hreads, ?_⟩
  rw [feed_cons, hstep]
  simpa [shown] using hfinish

end Step

private theorem continues (octets : Octets) (state : Option Pending × List Item)
    (h : IsOpen state.1) :
    Continues octets state := by
  induction octets generalizing state with
  | nil =>
    obtain ⟨pending, done⟩ := state
    cases pending with
    | none => exact ⟨[], .nil, (List.append_nil _).symm⟩
    | some p =>
      have hpart : p.IsPart := h p rfl
      refine ⟨_, .run (List.reverse_ne_nil_iff.2 hpart.taken_ne_nil) hpart.begins
        hpart.encodePoint_ne nofun .nil, ?_⟩
      simp [finish, feed, shown]
  | cons b octets ih =>
    obtain ⟨pending, done⟩ := state
    cases pending with
    | none => exact continues_begin ih done
    | some p =>
      have hpart : p.IsPart := h p rfl
      by_cases hbounds : p.low ≤ b.toNat ∧ b.toNat ≤ p.high
      · obtain ⟨hlow, hhigh⟩ := hbounds
        by_cases howed : p.owed ≤ 1
        · exact continues_last hpart ih hlow hhigh howed
        · exact continues_next hpart ih hlow hhigh howed
      · exact continues_broken hpart ih hbounds

/-- Every sequence of octets is read with replacements as it should be. -/
theorem readsLossily_decodeLossy (octets : Octets) : ReadsLossily octets (decodeLossy octets) := by
  obtain ⟨t, hreads, hfinish⟩ := continues octets (none, []) isOpen_none
  have hdecode : decodeLossy octets = t := hfinish
  rw [hdecode]
  exact hreads

end NodePanel.Utf8
