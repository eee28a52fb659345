import Mathlib.Data.List.Induction
import NodePanel.Keyed

/-!
Values under keys after changes. A change shows under its own key only, and of several values that
are given to one key the last one stays. The keys keep the order in which they first came up.
-/
namespace NodePanel

private theorem eraseDups_concat [BEq α] [LawfulBEq α] (as : List α) (a : α) :
    (as ++ [a]).eraseDups = if as.contains a then as.eraseDups else as.eraseDups ++ [a] := by
  rw [List.eraseDups_append, List.cons_removeAll]
  cases as.contains a with
  | false => rfl
  | true => exact List.append_nil _

namespace Keyed

variable {α β : Type} {entries others : Keyed α} {key other : Text} {value : α}

def keys (entries : Keyed α) : List Text := entries.map Prod.fst

theorem any_key_eq : entries.any (·.1 == key) = entries.keys.contains key := by
  unfold keys
  induction entries with
  | nil => rfl
  | cons entry entries ih =>
    rw [List.any_cons, ih, List.map_cons, List.contains_cons, Bool.beq_comm]

theorem keys_put :
    (entries.put key value).keys =
      if entries.keys.contains key then entries.keys else entries.keys ++ [key] := by
  unfold put
  rw [any_key_eq]
  split
  · unfold keys
    rw [List.map_map]
    apply List.map_congr_left
    intro entry _
    dsimp only [Function.comp]
    split
    next hkey => exact (beq_iff_eq.1 hkey).symm
    next => rfl
  · simp [keys]

theorem nodup_put (h : entries.keys.Nodup) : (entries.put key value).keys.Nodup := by
  rw [keys_put]
  split
  · exact h
  next hkey =>
    rw [List.nodup_append]
    refine ⟨h, by simp, fun a ha b hb => ?_⟩
    rintro rfl
    rw [List.mem_singleton] at hb
    subst hb
    exact hkey (List.contains_iff_mem.2 ha)

@[simp] theorem mem_put {entry : Text × α} :
    entry ∈ entries.put key value ↔ entry ∈ entries ∧ entry.1 ≠ key ∨ entry = (key, value) := by
  unfold put
  rw [any_key_eq]
  split
  next hkey =>
    obtain ⟨old, hold, hfst⟩ := List.mem_map.1 (List.contains_iff_mem.1 hkey)
    rw [List.mem_map]
    constructor
    · rintro ⟨entry', hmem, heq⟩
      split at heq
      · exact .inr heq.symm
      next hne =>
        subst heq
        exact .inl ⟨hmem, fun h => hne (beq_iff_eq.2 h)⟩
    · rintro (⟨hmem, hne⟩ | rfl)
      · exact ⟨entry, hmem, if_neg fun h => hne (beq_iff_eq.1 h)⟩
      · exact ⟨old, hold, if_pos (beq_iff_eq.2 hfst)⟩
  next hkey =>
    rw [List.mem_append, List.mem_singleton]
    refine or_congr_left (and_iff_left_of_imp fun hmem hfst => hkey ?_).symm
    exact List.contains_iff_mem.2 (hfst ▸ List.mem_map_of_mem hmem)

theorem get?_cons {entry : Text × α} :
    get? (entry :: entries) key = if key = entry.1 then some entry.2 else entries.get? key := by
  unfold get?
  rw [List.lookup_cons]
  by_cases hkey : key = entry.1
  · rw [if_pos hkey, beq_iff_eq.2 hkey]
  · rw [if_neg hkey, beq_eq_false_iff_ne.2 hkey]

theorem get?_eq_some_iff (h : entries.keys.Nodup) :
    entries.get? key = some value ↔ (key, value) ∈ entries := by
  induction entries with
  | nil => exact iff_of_false nofun nofun
  | cons entry entries ih =>
    obtain ⟨k, v⟩ := entry
    obtain ⟨hk, hnodup⟩ := List.nodup_cons.1 h
    rw [get?_cons, List.mem_cons, Prod.mk.injEq]
    by_cases hkey : key = k
    · subst hkey
      have hmem : (key, value) ∉ entries := fun hmem => hk (List.mem_map.2 ⟨_, hmem, rfl⟩)
      simp [hmem, eq_comm]
    · simp only [hkey, if_false, false_and, false_or]
      exact ih hnodup

def change (entries : Keyed α) (key : Text) (f : α → α) : Keyed α :=
  entries.map fun entry => if entry.1 == key then (key, f entry.2) else entry

@[simp] theorem get?_change {f : α → α} :
    (entries.change key f).get? other =
      if other = key then (entries.get? key).map f else entries.get? other := by
  unfold change
  induction entries with
  | nil => simp [get?]
  | cons entry entries ih =>
    rw [List.map_cons, get?_cons, ih, get?_cons, get?_cons]
    by_cases hentry : entry.1 = key
    · by_cases hother : other = key <;> simp [hentry, hother]
    · by_cases hother : other = key <;> simp [hentry, hother, Ne.symm hentry]

def erase (entries : Keyed α) (key : Text) : Keyed α := entries.filter (·.1 != key)

@[simp] theorem get?_erase :
    (entries.erase key).get? other = if other = key then none else entries.get? other := by
  unfold erase
  induction entries with
  | nil => simp [get?]
  | cons entry entries ih =>
    rw [List.filter_cons, get?_cons]
    by_cases hentry : entry.1 = key
    · rw [hentry, bne_self_eq_false, if_neg Bool.false_ne_true, ih]
      by_cases hother : other = key <;> simp [hother]
    · rw [if_pos (bne_iff_ne.2 hentry), get?_cons, ih]
      by_cases hother : other = key <;> simp [hother, Ne.symm hentry]

@[simp] theorem get?_put :
    (entries.put key value).get? other = if other = key then some value else entries.get? other := by
  unfold put
  rw [any_key_eq]
  split
  next hkey =>
    show (entries.change key fun _ => value).get? other = _
    rw [get?_change]
    split
    next =>
      cases hfound : entries.get? key with
      | some _ => rfl
      | none =>
        obtain ⟨entry, hmem, hfst⟩ := List.mem_map.1 (List.contains_iff_mem.1 hkey)
        have hne := List.lookup_eq_none_iff.1 hfound entry hmem
        simp [hfst] at hne
    next => rfl
  next hkey =>
    unfold get?
    rw [List.lookup_append]
    change (entries.get? other).or (get? [(key, value)] other) = _
    rw [get?_cons]
    by_cases hother : other = key
    · subst hother
      have hnone : entries.get? other = none := by
        refine List.lookup_eq_none_iff.2 fun entry hmem => bne_iff_ne.2 fun heq => hkey ?_
        exact List.contains_iff_mem.2 (heq ▸ List.mem_map_of_mem hmem)
      simp [hnone]
    · rw [if_neg hother, if_neg hother]
      exact Option.or_none

theorem get?_putAll :
    (entries.putAll others).get? key = (others.reverse.lookup key).or (entries.get? key) := by
  unfold putAll
  induction others generalizing entries with
  | nil => rfl
  | cons entry others ih =>
    rw [List.foldl_cons, ih, get?_put, List.reverse_cons, List.lookup_append, Option.or_assoc]
    congr 1
    rw [List.lookup_cons, List.lookup_nil]
    by_cases hkey : key = entry.1
    · simp [hkey]
    · have hne : (key == entry.1) = false := beq_eq_false_iff_ne.2 hkey
      rw [hne, if_neg hkey]
      exact Option.none_or.symm

@[simp] theorem get?_collect : (collect others).get? key = others.reverse.lookup key := by
  unfold collect
  rw [get?_putAll]
  exact Option.or_none

private theorem lookup_reverse (h : entries.keys.Nodup) :
    entries.reverse.lookup key = entries.get? key := by
  have hreverse : keys entries.reverse = entries.keys.reverse := List.map_reverse
  have hnodup : (keys entries.reverse).Nodup := by
    rw [hreverse]
    exact (List.reverse_perm _).nodup_iff.2 h
  ext v
  refine (get?_eq_some_iff hnodup).trans ?_
  rw [List.mem_reverse, get?_eq_some_iff h]

theorem get?_putAll_of_nodup (h : others.keys.Nodup) :
    (entries.putAll others).get? key = (others.get? key).or (entries.get? key) := by
  rw [get?_putAll, lookup_reverse h]

theorem nodup_putAll (h : entries.keys.Nodup) : (entries.putAll others).keys.Nodup := by
  unfold putAll
  induction others generalizing entries with
  | nil => exact h
  | cons entry others ih => exact ih (nodup_put h)

theorem nodup_collect : (collect others).keys.Nodup := nodup_putAll List.nodup_nil

theorem mem_of_mem_putAll {entry : Text × α} (h : entry ∈ entries.putAll others) :
    entry ∈ entries ∨ entry ∈ others := by
  unfold putAll at h
  induction others generalizing entries with
  | nil => exact .inl h
  | cons next others ih =>
    rcases ih h with hput | hothers
    · rcases mem_put.1 hput with ⟨hmem, -⟩ | rfl
      · exact .inl hmem
      · exact .inr List.mem_cons_self
    · exact .inr (List.mem_cons_of_mem _ hothers)

theorem mem_putAll_of_mem (hnodup : entries.keys.Nodup) (hothers : others.keys.Nodup)
    {entry : Text × α} (h : entry ∈ others) : entry ∈ entries.putAll others := by
  rw [← get?_eq_some_iff (nodup_putAll hnodup), get?_putAll_of_nodup hothers,
    (get?_eq_some_iff hothers).2 h]
  rfl

theorem mem_of_mem_collect {entry : Text × α} (h : entry ∈ collect others) : entry ∈ others := by
  rcases mem_of_mem_putAll h with hnil | hmem
  · contradiction
  · exact hmem

theorem put_of_not_mem (h : key ∉ entries.keys) :
    entries.put key value = entries ++ [(key, value)] := by
  unfold put
  rw [any_key_eq, if_neg fun hcontains => h (List.contains_iff_mem.1 hcontains)]

private theorem putAll_of_nodup (h : (keys (entries ++ others)).Nodup) :
    entries.putAll others = entries ++ others := by
  induction others generalizing entries with
  | nil => exact (List.append_nil entries).symm
  | cons entry others ih =>
    have hsplit : entries ++ entry :: others = entries ++ [entry] ++ others := List.append_cons ..
    have hnew : entry.1 ∉ entries.keys := by
      have hmiddle := (List.perm_middle.map Prod.fst).nodup_iff.1 h
      rw [List.map_cons, List.nodup_cons, List.map_append] at hmiddle
      exact fun hmem => hmiddle.1 (List.mem_append_left _ hmem)
    show (entries.put entry.1 entry.2).putAll others = _
    rw [put_of_not_mem hnew, hsplit]
    rw [hsplit] at h
    exact ih h

theorem collect_of_nodup (h : others.keys.Nodup) : collect others = others := putAll_of_nodup h

private theorem filter_put (p : Text → Bool) :
    (entries.put key value).filter (fun entry => p entry.1) =
      if p key then put (entries.filter fun entry => p entry.1) key value
      else entries.filter fun entry => p entry.1 := by
  have hmap : (entries.map fun entry => if entry.1 == key then (key, value) else entry).filter
      (fun entry => p entry.1) =
      (entries.filter fun entry => p entry.1).map fun entry =>
        if entry.1 == key then (key, value) else entry := by
    rw [List.filter_map]
    refine congrArg _ (List.filter_congr fun entry _ => ?_)
    dsimp only [Function.comp]
    split
    next hkey => rw [beq_iff_eq.1 hkey]
    next => rfl
  unfold put
  by_cases hp : p key = true
  · have hany : (entries.filter fun entry => p entry.1).any (·.1 == key) =
        entries.any (·.1 == key) := by
      rw [List.any_filter]
      refine List.any_congr rfl fun entry => ?_
      cases hkey : entry.1 == key with
      | true => rw [beq_iff_eq.1 hkey, hp, Bool.true_and]
      | false => exact Bool.and_false _
    rw [if_pos hp, hany]
    split
    · exact hmap
    · rw [List.filter_append, List.filter_cons, if_pos hp, List.filter_nil]
  · rw [if_neg hp]
    split
    · rw [hmap]
      refine (List.map_congr_left fun entry hentry => if_neg fun hkey => hp ?_).trans (List.map_id _)
      rw [← beq_iff_eq.1 hkey]
      exact (List.mem_filter.1 hentry).2
    · rw [List.filter_append, List.filter_cons, if_neg hp, List.filter_nil, List.append_nil]

theorem filter_putAll (p : Text → Bool) :
    (entries.putAll others).filter (fun entry => p entry.1) =
      putAll (entries.filter fun entry => p entry.1) (others.filter fun entry => p entry.1) := by
  unfold putAll
  induction others generalizing entries with
  | nil => rfl
  | cons entry others ih =>
    rw [List.foldl_cons, ih, filter_put, List.filter_cons]
    split
    · rw [List.foldl_cons]
    · rfl

/-- Values that are put in one after the other, each depending on those before it, come under their
keys in the order in which these first come up. -/
theorem keys_foldl_put (name : β → Text) (valueOf : Keyed α → β → α) (items : List β) :
    (items.foldl (fun (bound : Keyed α) item => bound.put (name item) (valueOf bound item)) []).keys =
      (items.map name).eraseDups := by
  induction items using List.reverseRecOn with
  | nil => rfl
  | append_singleton items item ih =>
    rw [List.foldl_append, List.foldl_cons, List.foldl_nil, keys_put, ih, List.map_append,
      List.map_singleton, eraseDups_concat]
    have hcontains : (items.map name).eraseDups.contains (name item) =
        (items.map name).contains (name item) := by
      rw [Bool.eq_iff_iff, List.contains_iff_mem, List.contains_iff_mem, List.mem_eraseDups]
    rw [hcontains]

end Keyed

end NodePanel
