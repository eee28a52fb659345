import NodePanel.Proofs.Json.ReadBack

/-!
What is read is within the limits of the reader. The invariant is on the open containers: what one of
them holds fits in the levels that are left inside it, and an object has no key twice.
-/
namespace NodePanel.Json

/-- The value is within the limits of the reader, whatever texts are in it. -/
abbrev FitsLimits : Nat → Json → Prop := Fits fun _ => True

/-! Depth -/

theorem depthOfItems_le_iff {items : List Json} {k : Nat} :
    depthOfItems items ≤ k ↔ ∀ v ∈ items, v.depth ≤ k := by
  induction items with
  | nil => exact iff_of_true (Nat.zero_le k) nofun
  | cons v items ih =>
    rw [List.forall_mem_cons, ← ih]
    exact Nat.max_le

theorem depthOfFields_le_iff {fields : Fields} {k : Nat} :
    depthOfFields fields ≤ k ↔ ∀ f ∈ fields, f.2.depth ≤ k := by
  induction fields with
  | nil => exact iff_of_true (Nat.zero_le k) nofun
  | cons f fields ih =>
    rw [List.forall_mem_cons, ← ih]
    exact Nat.max_le

theorem Fits.depth_le {p : Text → Prop} {levels : Nat} {v : Json} (h : Fits p levels v) :
    v.depth ≤ levels := by
  induction h with
  | arr _ ih => exact Nat.succ_le_succ (depthOfItems_le_iff.2 ih)
  | obj _ _ _ ih => exact Nat.succ_le_succ (depthOfFields_le_iff.2 ih)
  | _ => exact Nat.zero_le _

theorem depth_lt_of_get? {v w : Json} {key : Text} (h : v.get? key = some w) :
    w.depth < v.depth := by
  cases v with
  | obj fields =>
    obtain ⟨before, after, rfl, -⟩ := List.lookup_eq_some_iff.1 h
    have hmem : (key, w) ∈ before ++ (key, w) :: after := by simp
    exact Nat.lt_succ_of_le (depthOfFields_le_iff.1 (Nat.le_refl _) _ hmem)
  | _ => contradiction

/-! Words -/

private theorem fits_of_numberOf? {t : Text} {n : Numeral} {v : Json}
    (hn : Numeral.ofText? t = some n)
    (h : Reader.numberOf? n = some v) (levels : Nat) : FitsLimits levels v := by
  unfold Reader.numberOf? at h
  split at h
  · contradiction
  next hnumber =>
    split at h
    · split at h
      next hlength =>
        cases h
        refine .int (Nat.le_trans ?_ hlength)
        have hnumber : Reader.isNumber n = true := by simpa using hnumber
        obtain ⟨-, hwhole, -⟩ := isNumber_iff.1 hnumber
        have hvalue := Numeral.digitsValue_lt (Numeral.isDigits_whole hn)
        have habs : n.toInt.natAbs = Numeral.digitsValue n.whole := Binary64.natAbs_withSign _ _
        rw [habs]
        exact (Numeral.length_ofNat_le_iff (List.length_pos_iff.2 hwhole)).2 hvalue
      · contradiction
    · cases h
      exact .float _

private theorem fits_of_wordValue? {t : Text} {v : Json} (h : Reader.wordValue? t = some v)
    (levels : Nat) :
    FitsLimits levels v := by
  unfold Reader.wordValue? at h
  repeat' split at h
  · cases h
    exact .null
  · cases h
    exact .bool true
  · cases h
    exact .bool false
  · cases h
    exact .float _
  · cases h
    exact .float _
  · cases h
    exact .float _
  · obtain ⟨n, hn, hvalue⟩ := Option.bind_eq_some_iff.1 h
    exact fits_of_numberOf? hn hvalue levels

/-! Fields -/

theorem keys_put (key : Text) (v : Json) (fields : Fields) :
    (fields.put key v).map (·.1) =
      if fields.any (·.1 == key) then fields.map (·.1) else key :: fields.map (·.1) := by
  unfold Fields.put
  split
  · rw [List.map_map]
    refine List.map_congr_left fun f _ => ?_
    show (if f.1 == key then (key, v) else f).1 = f.1
    split
    next hkey => exact (beq_iff_eq.1 hkey).symm
    next => rfl
  · rfl

theorem nodup_put {key : Text} {v : Json} {fields : Fields} (h : (fields.map (·.1)).Nodup) :
    ((fields.put key v).map (·.1)).Nodup := by
  rw [keys_put]
  split
  · exact h
  next hany =>
    refine List.nodup_cons.2 ⟨fun hmem => hany ?_, h⟩
    obtain ⟨f, hf, hkey⟩ := List.mem_map.1 hmem
    exact List.any_eq_true.2 ⟨f, hf, beq_iff_eq.2 hkey⟩

theorem mem_put {key : Text} {v : Json} {fields : Fields} {f : Text × Json}
    (h : f ∈ fields.put key v) : f = (key, v) ∨ f ∈ fields := by
  unfold Fields.put at h
  split at h
  · obtain ⟨g, hg, rfl⟩ := List.mem_map.1 h
    split
    · exact .inl rfl
    · exact .inr hg
  · exact List.mem_cons.1 h

namespace Reader

def FrameFits (levels : Nat) : Frame → Prop
  | .array items => ∀ v ∈ items, FitsLimits levels v
  | .object fields => (fields.map (·.1)).Nodup ∧ ∀ f ∈ fields, FitsLimits levels f.2
  | .field fields _ => (fields.map (·.1)).Nodup ∧ ∀ f ∈ fields, FitsLimits levels f.2

variable [Machine]

def FramesFit : List Frame → Prop
  | [] => True
  | frame :: frames =>
    (∃ levels, frames.length + 1 + levels = Machine.bodyLimit ∧ FrameFits levels frame) ∧
      FramesFit frames

def IsWithinLimits : Reader → Prop
  | .open _ _ frames => FramesFit frames
  | closed v => FitsLimits Machine.bodyLimit v
  | failed => True

variable {frames : List Frame} {levels : Nat} {v : Json}

private theorem exists_levels (h : FramesFit frames) :
    ∃ levels, frames.length + levels = Machine.bodyLimit := by
  cases frames with
  | nil => exact ⟨Machine.bodyLimit, Nat.zero_add _⟩
  | cons frame frames =>
    obtain ⟨⟨levels, hlevels, -⟩, -⟩ := h
    exact ⟨levels, hlevels⟩

theorem isWithinLimits_give (h : FramesFit frames)
    (hlevels : frames.length + levels = Machine.bodyLimit) (hv : FitsLimits levels v) :
    IsWithinLimits (give v frames) := by
  cases frames with
  | nil =>
    obtain rfl : levels = Machine.bodyLimit := by rwa [List.length_nil, Nat.zero_add] at hlevels
    exact hv
  | cons frame frames =>
    obtain ⟨⟨inside, hinside, hframe⟩, hframes⟩ := h
    obtain rfl : inside = levels := by
      rw [List.length_cons] at hlevels
      omega
    cases frame with
    | array items => exact ⟨⟨_, hinside, List.forall_mem_cons.2 ⟨hv, hframe⟩⟩, hframes⟩
    | object fields => exact trivial
    | field fields key =>
      obtain ⟨hnodup, hfields⟩ := hframe
      refine ⟨⟨_, hinside, nodup_put hnodup, fun f hf => ?_⟩, hframes⟩
      rcases mem_put hf with rfl | hf
      · exact hv
      · exact hfields f hf

theorem isWithinLimits_give_leaf (h : FramesFit frames) (hv : ∀ levels, FitsLimits levels v) :
    IsWithinLimits (give v frames) := by
  obtain ⟨levels, hlevels⟩ := exists_levels h
  exact isWithinLimits_give h hlevels (hv levels)

private theorem isWithinLimits_giveString (h : FramesFit frames) (t : Text) (place : Place) :
    IsWithinLimits (giveString t place frames) := by
  have hleaf : IsWithinLimits (give (.str t) frames) :=
    isWithinLimits_give_leaf h fun _ => .str trivial
  cases place <;> first | exact hleaf | exact h | exact trivial

theorem isWithinLimits_endWord (h : FramesFit frames) (taken : Text) (place : Place) :
    IsWithinLimits (endWord taken place frames) := by
  unfold endWord
  split
  next v hv =>
    have hleaf : IsWithinLimits (give v frames) := isWithinLimits_give_leaf h (fits_of_wordValue? hv)
    cases place <;> first | exact hleaf | exact trivial
  next => exact trivial

theorem isWithinLimits_openContainer (h : FramesFit frames) {frame : Frame}
    (hframe : ∀ levels, FrameFits levels frame) (next place : Place) :
    IsWithinLimits (openContainer frame next place frames) := by
  unfold openContainer
  split
  next => exact trivial
  next hdeep =>
    have hopen : FramesFit (frame :: frames) :=
      ⟨⟨Machine.bodyLimit - (frames.length + 1), by omega, hframe _⟩, h⟩
    cases place <;> first | exact hopen | exact trivial

private theorem isWithinLimits_closeArray (h : FramesFit frames) (place : Place) :
    IsWithinLimits (closeArray place frames) := by
  have hclose {items : List Json} {frames : List Frame} (h : FramesFit (.array items :: frames)) :
      IsWithinLimits (give (.arr items.reverse) frames) := by
    obtain ⟨⟨levels, hlevels, hitems⟩, hframes⟩ := h
    have houter : frames.length + (levels + 1) = Machine.bodyLimit := by omega
    exact isWithinLimits_give hframes houter (.arr fun v hv => hitems v (List.mem_reverse.1 hv))
  unfold closeArray
  split
  · exact hclose h
  · exact hclose h
  · exact trivial

private theorem isWithinLimits_closeObject (h : FramesFit frames) (place : Place) :
    IsWithinLimits (closeObject place frames) := by
  have hclose {fields : Fields} {frames : List Frame} (h : FramesFit (.object fields :: frames)) :
      IsWithinLimits (give (.obj fields.reverse) frames) := by
    obtain ⟨⟨levels, hlevels, hnodup, hfields⟩, hframes⟩ := h
    have houter : frames.length + (levels + 1) = Machine.bodyLimit := by omega
    refine isWithinLimits_give hframes houter ?_
    refine .obj ?_ (fun _ _ => trivial) fun f hf => hfields f (List.mem_reverse.1 hf)
    rw [List.map_reverse]
    exact (List.reverse_perm _).nodup_iff.2 hnodup
  unfold closeObject
  split
  · exact hclose h
  · exact hclose h
  · exact trivial

private theorem isWithinLimits_comma (h : FramesFit frames) (place : Place) :
    IsWithinLimits (comma place frames) := by
  unfold comma
  split
  · exact h
  · exact h
  · exact trivial

private theorem isWithinLimits_colon (h : FramesFit frames) (place : Place) :
    IsWithinLimits (colon place frames) := by
  unfold colon
  split
  · exact h
  · exact trivial

theorem isWithinLimits_stepIdle (h : FramesFit frames) (c : CodePoint) (place : Place) :
    IsWithinLimits (stepIdle c place frames) := by
  have harray (levels : Nat) : FrameFits levels (.array []) := fun _ hv => nomatch hv
  have hobject (levels : Nat) : FrameFits levels (.object []) :=
    ⟨List.nodup_nil, fun _ hf => nomatch hf⟩
  unfold stepIdle
  repeat' split
  · exact h
  · exact h
  · exact h
  · exact isWithinLimits_openContainer h harray _ _
  · exact isWithinLimits_openContainer h hobject _ _
  · exact isWithinLimits_closeArray h place
  · exact isWithinLimits_closeObject h place
  · exact isWithinLimits_comma h place
  · exact isWithinLimits_colon h place
  · exact trivial

theorem isWithinLimits_stepClosed (h : FitsLimits Machine.bodyLimit v) (c : CodePoint) :
    IsWithinLimits (stepClosed c v) := by
  unfold stepClosed
  split
  · exact h
  · exact trivial

theorem IsWithinLimits.step {state : Reader} (h : IsWithinLimits state) (c : CodePoint) :
    IsWithinLimits (step state c) := by
  unfold Reader.step
  split
  · exact trivial
  · exact isWithinLimits_stepClosed h c
  · exact isWithinLimits_stepIdle h c _
  next taken place frames =>
    have hword := isWithinLimits_endWord h taken place
    split
    · exact h
    · split
      next v hend =>
        rw [hend] at hword
        exact isWithinLimits_stepClosed hword c
      next hend =>
        rw [hend] at hword
        exact isWithinLimits_stepIdle hword c _
      next => exact trivial
  next taken high place frames =>
    repeat' split
    · exact isWithinLimits_giveString h _ place
    · exact h
    · exact trivial
    · exact h
  next =>
    repeat' split
    · exact h
    · exact h
    · exact trivial
  next =>
    split
    · exact trivial
    · dsimp only
      split
      · exact h
      · exact h

theorem IsWithinLimits.run {state : Reader} (h : IsWithinLimits state) (t : Text) :
    IsWithinLimits (run state t) := by
  induction t generalizing state with
  | nil => exact h
  | cons c t ih => exact ih (h.step c)

theorem IsWithinLimits.finish {state : Reader} (h : IsWithinLimits state)
    (hv : finish state = some v) : FitsLimits Machine.bodyLimit v := by
  unfold Reader.finish at hv
  split at hv
  next w =>
    cases hv
    exact h
  next taken place frames =>
    have hword := isWithinLimits_endWord h taken place
    split at hv
    next w hend =>
      cases hv
      rw [hend] at hword
      exact hword
    next => contradiction
  next => contradiction

end Reader

variable [Machine]

theorem fitsLimits_of_ofText? {t : Text} {v : Json} (h : ofText? t = some v) :
    FitsLimits Machine.bodyLimit v := by
  have hstart : Reader.IsWithinLimits Reader.start := trivial
  exact (hstart.run t).finish h

theorem fitsLimits_of_ofOctets? {octets : Octets} {v : Json} (h : ofOctets? octets = some v) :
    FitsLimits Machine.bodyLimit v := by
  obtain ⟨t, -, ht⟩ := Option.bind_eq_some_iff.1 h
  exact fitsLimits_of_ofText? ht

theorem ofText?_write_compact {v : Json} (h : FitsLimits Machine.bodyLimit v) :
    ofText? (v.write .compact) = some v :=
  ofText?_write Style.isStandard_compact nofun h

end NodePanel.Json
