import NodePanel.Proofs.Keyed
import NodePanel.Proofs.Settings.Fields

/-!
Which of the bindings of a file a setting is read from. A variable may be spelled in several ways,
and may be bound several times in each. The spelling that first comes up last decides, and in it the
last binding; so a binding that comes later need not win.
-/
namespace NodePanel.Settings

open EnvFile

/-- Whether a binding between others is the one that the value of a variable is read from. -/
structure Decides (setting : Text) (earlier : List Binding) (binding : Binding)
    (later : List Binding) : Prop where
  /-- Its spelling is, in the order in which they first come up, the last one of the variable. -/
  spelling_last :
    ((earlier ++ binding :: later).map Prod.fst).eraseDups.reverse.find? (foldCase · == setting) =
      some binding.1
  /-- It is the last binding in its spelling. -/
  binding_last : binding.1 ∉ later.map Prod.fst

def resolved (environment : Environment) (earlier : List Binding) (binding : Binding) :
    Option Text :=
  binding.2.map (interpolate (variableValue environment (resolve environment earlier)))

@[simp] theorem resolve_concat (environment : Environment) (earlier : List Binding)
    (binding : Binding) :
    resolve environment (earlier ++ [binding]) =
      (resolve environment earlier).put binding.1 (resolved environment earlier binding) := by
  unfold resolve
  rw [List.foldl_append]
  rfl

@[simp] theorem keys_resolve (environment : Environment) (bs : List Binding) :
    (resolve environment bs).keys = (bs.map Prod.fst).eraseDups :=
  Keyed.keys_foldl_put Prod.fst (fun (bound : Keyed (Option Text)) (b : Binding) =>
    b.2.map (interpolate (variableValue environment bound))) bs

private theorem nodup_resolve (environment : Environment) (bs : List Binding) :
    (resolve environment bs).keys.Nodup := by
  induction bs using List.reverseRecOn with
  | nil => exact List.nodup_nil
  | append_singleton bs b ih =>
    rw [resolve_concat]
    exact Keyed.nodup_put ih

theorem get?_resolve (environment : Environment) (earlier : List Binding) (binding : Binding)
    (later : List Binding) (h : binding.1 ∉ later.map Prod.fst) :
    (resolve environment (earlier ++ binding :: later)).get? binding.1 =
      some (resolved environment earlier binding) := by
  induction later using List.reverseRecOn with
  | nil => rw [resolve_concat, Keyed.get?_put, if_pos rfl]
  | append_singleton later b ih =>
    rw [List.map_append, List.mem_append, not_or] at h
    have hne : binding.1 ≠ b.1 := fun heq => h.2 (heq ▸ List.mem_singleton_self _)
    rw [← List.cons_append, ← List.append_assoc, resolve_concat, Keyed.get?_put, if_neg hne,
      ih h.1]

private theorem exists_last_binding {bs : List Binding} {name : Text} (h : name ∈ bs.map Prod.fst) :
    ∃ earlier binding later, bs = earlier ++ binding :: later ∧ binding.1 = name ∧
      name ∉ later.map Prod.fst := by
  induction bs with
  | nil => contradiction
  | cons b bs ih =>
    by_cases hlater : name ∈ bs.map Prod.fst
    · obtain ⟨earlier, binding, later, rfl, hbinding, hlast⟩ := ih hlater
      exact ⟨b :: earlier, binding, later, rfl, hbinding, hlast⟩
    · rcases List.mem_cons.1 h with heq | hmem
      · exact ⟨[], b, bs, rfl, heq.symm, hlater⟩
      · exact absurd hmem hlater

theorem get?_foldKeys (entries : Keyed α) (setting : Text) :
    Keyed.get? (foldKeys entries) setting =
      (entries.find? (foldCase ·.1 == setting)).map Prod.snd := by
  unfold foldKeys
  induction entries with
  | nil => rfl
  | cons e entries ih =>
    unfold Keyed.get? at ih ⊢
    rw [List.map_cons, List.lookup_cons, List.find?_cons, ih, Bool.beq_comm]
    cases foldCase e.1 == setting <;> rfl

theorem get?_folded (entries : Keyed α) (setting : Text) :
    (folded entries).get? setting =
      (entries.reverse.find? (foldCase ·.1 == setting)).map Prod.snd := by
  have hreverse : (foldKeys entries).reverse = foldKeys entries.reverse := List.map_reverse.symm
  unfold folded
  rw [Keyed.get?_collect, hreverse]
  exact get?_foldKeys entries.reverse setting

theorem get?_putAll_folded (found entries : Keyed α) (setting : Text) :
    (found.putAll (folded entries)).get? setting =
      ((folded entries).get? setting).or (found.get? setting) :=
  Keyed.get?_putAll_of_nodup Keyed.nodup_collect

private theorem get?_folded_of_nodup {entries : Keyed α} (h : entries.keys.Nodup) (setting : Text) :
    (folded entries).get? setting =
      (entries.keys.reverse.find? (foldCase · == setting)).bind entries.get? := by
  rw [get?_folded]
  unfold Keyed.keys
  rw [← List.map_reverse, List.find?_map]
  cases hfind : entries.reverse.find? ((foldCase · == setting) ∘ Prod.fst) with
  | none =>
    change entries.reverse.find? (foldCase ·.1 == setting) = none at hfind
    rw [hfind]
    rfl
  | some entry =>
    change entries.reverse.find? (foldCase ·.1 == setting) = some entry at hfind
    rw [hfind]
    have hmem : entry ∈ entries := List.mem_reverse.1 (List.mem_of_find?_eq_some hfind)
    exact ((Keyed.get?_eq_some_iff h).2 hmem).symm

theorem get?_folded_resolve_iff (environment : Environment) (bs : List Binding) (setting : Text)
    (value : Option Text) :
    (folded (resolve environment bs)).get? setting = some value ↔
      ∃ earlier binding later, bs = earlier ++ binding :: later ∧
        Decides setting earlier binding later ∧ resolved environment earlier binding = value := by
  rw [get?_folded_of_nodup (nodup_resolve environment bs), keys_resolve, Option.bind_eq_some_iff]
  constructor
  · rintro ⟨name, hname, hvalue⟩
    have hmem : name ∈ bs.map Prod.fst :=
      List.mem_eraseDups.1 (List.mem_reverse.1 (List.mem_of_find?_eq_some hname))
    obtain ⟨earlier, binding, later, rfl, rfl, hlast⟩ := exists_last_binding hmem
    rw [get?_resolve environment earlier binding later hlast] at hvalue
    exact ⟨earlier, binding, later, rfl, ⟨hname, hlast⟩, Option.some.inj hvalue⟩
  · rintro ⟨earlier, binding, later, rfl, hdecides, rfl⟩
    exact ⟨binding.1, hdecides.spelling_last,
      get?_resolve environment earlier binding later hdecides.binding_last⟩

theorem get?_folded_resolve_eq_none_iff (environment : Environment) (bs : List Binding)
    (setting : Text) :
    (folded (resolve environment bs)).get? setting = none ↔
      ∀ binding ∈ bs, foldCase binding.1 ≠ setting := by
  have hkeys := keys_resolve environment bs
  rw [get?_folded, Option.map_eq_none_iff, List.find?_eq_none]
  constructor
  · intro h binding hbinding heq
    have hmem : binding.1 ∈ (resolve environment bs).keys := by
      rw [hkeys]
      exact List.mem_eraseDups.2 (List.mem_map_of_mem hbinding)
    obtain ⟨entry, hentry, hfst⟩ := List.mem_map.1 hmem
    exact h entry (List.mem_reverse.2 hentry) (by rw [hfst, heq]; exact beq_self_eq_true _)
  · intro h entry hentry heq
    have hmem : entry.1 ∈ (resolve environment bs).keys :=
      List.mem_map_of_mem (List.mem_reverse.1 hentry)
    rw [hkeys, List.mem_eraseDups] at hmem
    obtain ⟨binding, hbinding, hfst⟩ := List.mem_map.1 hmem
    exact h binding hbinding (hfst ▸ beq_iff_eq.1 heq)

theorem decides_of_last {setting : Text} {earlier later : List Binding} {binding : Binding}
    (hfold : foldCase binding.1 = setting)
    (hspelling : ∀ b ∈ earlier ++ later, foldCase b.1 = setting → b.1 = binding.1)
    (hlast : binding.1 ∉ later.map Prod.fst) : Decides setting earlier binding later := by
  refine ⟨?_, hlast⟩
  cases hfind : ((earlier ++ binding :: later).map Prod.fst).eraseDups.reverse.find?
      (foldCase · == setting) with
  | none =>
    have hmem : binding.1 ∈ ((earlier ++ binding :: later).map Prod.fst).eraseDups.reverse :=
      List.mem_reverse.2 (List.mem_eraseDups.2 (List.mem_map_of_mem (by simp)))
    have hnone := List.find?_eq_none.1 hfind _ hmem
    simp [hfold] at hnone
  | some name =>
    have hmem := List.mem_eraseDups.1 (List.mem_reverse.1 (List.mem_of_find?_eq_some hfind))
    obtain ⟨b, hb, rfl⟩ := List.mem_map.1 hmem
    have hfolds : foldCase b.1 = setting := by simpa using List.find?_some hfind
    rcases List.mem_append.1 hb with hearlier | hrest
    · rw [hspelling b (List.mem_append_left _ hearlier) hfolds]
    · rcases List.mem_cons.1 hrest with rfl | hlater
      · rfl
      · rw [hspelling b (List.mem_append_right _ hlater) hfolds]

theorem decides_of_only {setting : Text} {earlier later : List Binding} {binding : Binding}
    (hfold : foldCase binding.1 = setting)
    (hothers : ∀ b ∈ earlier ++ later, foldCase b.1 ≠ setting) :
    Decides setting earlier binding later := by
  refine decides_of_last hfold (fun b hb heq => absurd heq (hothers b hb)) fun hmem => ?_
  obtain ⟨b, hb, heq⟩ := List.mem_map.1 hmem
  exact hothers b (List.mem_append_right _ hb) (heq ▸ hfold)

end NodePanel.Settings
