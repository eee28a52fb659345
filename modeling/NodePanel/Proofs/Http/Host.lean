import NodePanel.Http.Url
import NodePanel.Proofs.Text.Split
import NodePanel.Proofs.Text.Surrogate

/-!
Plain hosts: names of unreserved code points, and addresses of four octets. An address keeps such a
host but for its case, and requests can be sent to it.
-/
namespace NodePanel

namespace CodePoint

theorem asciiLower_eq_or (c : CodePoint) : c.asciiLower = c ∨ c.asciiLower.isAsciiLower = true := by
  unfold asciiLower
  by_cases h : c.isAsciiUpper
  · right
    rw [if_pos h]
    simp only [isAsciiUpper, Bool.and_eq_true, decide_eq_true_eq] at h
    simp only [isAsciiLower, val_ofNat (show c.val + 32 < 0x110000 by omega), Bool.and_eq_true,
      decide_eq_true_eq]
    omega
  · exact .inl (if_neg h)

private theorem asciiLower_of_isAsciiLower {c : CodePoint} (h : c.isAsciiLower = true) :
    c.asciiLower = c := by
  refine if_neg fun hupper => ?_
  simp only [isAsciiLower, isAsciiUpper, Bool.and_eq_true, decide_eq_true_eq] at h hupper
  omega

theorem isAsciiLetter_asciiLower {c : CodePoint} (h : c.isAsciiLetter = true) :
    c.asciiLower.isAsciiLetter = true := by
  rcases c.asciiLower_eq_or with heq | hlower
  · rwa [heq]
  · simp [isAsciiLetter, hlower]

@[simp] theorem asciiLower_asciiLower (c : CodePoint) : c.asciiLower.asciiLower = c.asciiLower := by
  rcases c.asciiLower_eq_or with h | h
  · rw [h, h]
  · exact asciiLower_of_isAsciiLower h

end CodePoint

namespace Text

@[simp] theorem asciiLower_asciiLower (t : Text) : asciiLower (asciiLower t) = asciiLower t := by
  simp [asciiLower]

@[simp] theorem length_asciiLower (t : Text) : (asciiLower t).length = t.length := by
  simp [asciiLower]

theorem forall_asciiLower {p : CodePoint → Bool} (hp : ∀ c, c.isAsciiLower = true → p c = true)
    {t : Text} (h : ∀ c ∈ t, p c = true) : ∀ c ∈ asciiLower t, p c = true := by
  intro c hc
  obtain ⟨d, hd, rfl⟩ := List.mem_map.1 hc
  rcases d.asciiLower_eq_or with heq | hlower
  · rw [heq]
    exact h d hd
  · exact hp _ hlower

theorem not_mem_of_forall {p : CodePoint → Bool} {t : Text} (h : ∀ c ∈ t, p c = true)
    {c : CodePoint} (hc : p c = false) : c ∉ t := fun hmem =>
  Bool.false_ne_true (hc.symm.trans (h c hmem))

end Text

namespace IpAddress

theorem eq_point_or_isAsciiDigit {t : Text} (h : looksLikeVersion4 t = true) {c : CodePoint}
    (hc : c ∈ t) : c = HostName.point ∨ c.isAsciiDigit = true := by
  simp only [looksLikeVersion4, Bool.and_eq_true, List.all_eq_true] at h
  rw [← Text.join_splitOn HostName.point t] at hc
  rcases Text.mem_join hc with hpoint | ⟨piece, hpiece, hmem⟩
  · exact .inl hpoint
  · exact .inr ((h.2 piece hpiece).2 c hmem)

private theorem asciiLower_of_looksLikeVersion4 {t : Text} (h : looksLikeVersion4 t = true) :
    Text.asciiLower t = t := by
  refine (List.map_congr_left fun c hc => if_neg fun hupper => ?_).trans (List.map_id t)
  rcases eq_point_or_isAsciiDigit h hc with rfl | hdigit
  · contradiction
  · simp only [CodePoint.isAsciiUpper, CodePoint.isAsciiDigit, Bool.and_eq_true,
      decide_eq_true_eq] at hupper hdigit
    omega

private theorem asciiLower_eq_of_looksLikeVersion4 {t : Text}
    (h : looksLikeVersion4 (Text.asciiLower t) = true) : Text.asciiLower t = t := by
  refine (List.map_congr_left fun c hc => ?_).trans (List.map_id t)
  refine c.asciiLower_eq_or.resolve_right fun hlower => ?_
  rcases eq_point_or_isAsciiDigit h (List.mem_map_of_mem hc) with hpoint | hdigit
  · rw [hpoint] at hlower
    contradiction
  · simp only [CodePoint.isAsciiLower, CodePoint.isAsciiDigit, Bool.and_eq_true,
      decide_eq_true_eq] at hlower hdigit
    omega

end IpAddress

namespace Url

private theorem isUnreserved_of_isAsciiLower {c : CodePoint} (h : c.isAsciiLower = true) :
    isUnreserved c = true := by
  simp [isUnreserved, CodePoint.isAsciiLetter, h]

theorem isIn_eq_false {p : CodePoint → Bool} {chars : String}
    (hchars : ∀ d ∈ Text.ofString chars, p d = false) {c : CodePoint} (hc : p c = true) :
    isIn chars c = false := by
  refine Bool.eq_false_iff.2 fun hmem => Bool.false_ne_true ?_
  rw [← hchars c (List.contains_iff_mem.1 hmem), hc]

theorem bounds_of_isUnreserved {c : CodePoint} (h : isUnreserved c = true) :
    0x20 < c.val ∧ c.val < 0x7F := by
  simp only [isUnreserved, CodePoint.isAsciiLetter, CodePoint.isAsciiUpper, CodePoint.isAsciiLower,
    CodePoint.isAsciiDigit, Bool.or_eq_true, Bool.and_eq_true, decide_eq_true_eq] at h
  rcases h with ((h | h) | h) | h
  · omega
  · omega
  · omega
  · have hmem : ∀ d ∈ Text.ofString "-._~", 0x20 < d.val ∧ d.val < 0x7F := by decide
    exact hmem c (List.contains_iff_mem.1 h)

theorem encode_of_forall {safe : CodePoint → Bool} {t : Text} (h : ∀ c ∈ t, safe c = true) :
    encode safe t = .ok t := by
  induction t with
  | nil => rfl
  | cons c t ih =>
    have hpoint : encodePoint safe (c :: t) c = .ok [c] := by
      simp [encodePoint, h c List.mem_cons_self]
    rw [encode, hpoint, ih fun d hd => h d (List.mem_cons_of_mem c hd)]
    rfl

structure IsPlainHost (t : Text) : Prop where
  ne_nil : t ≠ []
  isUnreserved : ∀ c ∈ t, isUnreserved c = true
  /-- What looks like four octets is four octets. -/
  isVersion4 : IpAddress.looksLikeVersion4 t = true → IpAddress.isVersion4 t = true
  /-- What begins like a name in Punycode is such a name. -/
  isName : HostName.checkWire (Text.asciiLower t) = .ok ()

instance : DecidablePred IsPlainHost := fun t =>
  decidable_of_iff (t ≠ [] ∧ (∀ c ∈ t, isUnreserved c = true) ∧
      (IpAddress.looksLikeVersion4 t = true → IpAddress.isVersion4 t = true) ∧
      HostName.checkWire (Text.asciiLower t) = .ok ())
    ⟨fun ⟨hne, hpoints, hversion, hname⟩ => ⟨hne, hpoints, hversion, hname⟩,
      fun h => ⟨h.ne_nil, h.isUnreserved, h.isVersion4, h.isName⟩⟩

namespace IsPlainHost

variable {t : Text}

theorem not_mem (h : IsPlainHost t) {c : CodePoint} (hc : Url.isUnreserved c = false) : c ∉ t :=
  Text.not_mem_of_forall h.isUnreserved hc

theorem asciiLower (h : IsPlainHost t) : IsPlainHost (Text.asciiLower t) where
  ne_nil := mt List.map_eq_nil_iff.1 h.ne_nil
  isUnreserved := Text.forall_asciiLower (fun _ => isUnreserved_of_isAsciiLower) h.isUnreserved
  isVersion4 hlooks := by
    have hsame := IpAddress.asciiLower_eq_of_looksLikeVersion4 hlooks
    rw [hsame] at hlooks ⊢
    exact h.isVersion4 hlooks
  isName := by rw [Text.asciiLower_asciiLower, h.isName]

theorem hostOf_eq (h : IsPlainHost t) : hostOf t = .ok (Text.asciiLower t) := by
  unfold hostOf
  by_cases hlooks : IpAddress.looksLikeVersion4 t
  · rw [if_pos hlooks, if_pos (h.isVersion4 hlooks),
      IpAddress.asciiLower_of_looksLikeVersion4 hlooks]
  · have hbracket : isBracketed t = false := by
      have hhead : t.head? ≠ some (CodePoint.ofChar '[') := fun heq =>
        h.not_mem (by decide) (List.mem_of_mem_head? heq)
      simp [isBracketed, hhead]
    have hascii : t.all CodePoint.isAscii = true := List.all_eq_true.2 fun c hc => by
      have hbounds := bounds_of_isUnreserved (h.isUnreserved c hc)
      exact decide_eq_true (by omega)
    rw [if_neg hlooks, if_neg (by simp [hbracket]), if_pos hascii]
    refine encode_of_forall fun c hc => ?_
    simp [isHostPoint, h.asciiLower.isUnreserved c hc]

end IsPlainHost

end Url

end NodePanel
