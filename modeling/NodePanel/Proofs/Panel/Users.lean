import Mathlib.Data.List.Forall2
import NodePanel.Proofs.Panel.Lenient
import NodePanel.Proofs.Result

/-!
The users of a list. Each entry becomes one user in the same place, made of two fields of the entry
and of what holds for the whole list, and nothing else in the data has an influence.
-/
namespace NodePanel

private theorem map_modify_of_forall {α β : Type} {f : α → β} {change : α → α}
    (h : ∀ a, f (change a) = f a) (items : List α) (i : Nat) :
    (items.modify i change).map f = items.map f := by
  ext j b
  rw [List.getElem?_map, List.getElem?_modify, List.getElem?_map, Option.map_eq_map, Option.map_map]
  split
  · rw [show f ∘ change = f from funext h]
  · rfl

namespace User

open Lenient (Kind)

variable {datas entry w : Json} {key : Text} {path : List Json.Step} {mbps : Binary64}
variable {alterId deviceLimit : Int} {limit : Nat}

/-- A user made of an entry of the list and of what holds for every user in it. -/
structure IsMadeOf (alterId : Int) (limit : Nat) (deviceLimit : Int) (entry : Json)
    (user : User) : Prop where
  uid : Kind.integer.Reads entry "port" user.uid
  email : user.email = Text.ofInt user.uid
  uuid : Kind.text.Reads entry "pass" user.uuid
  alterId : user.alterId = alterId
  speedLimit : user.speedLimit = limit
  deviceLimit : user.deviceLimit = deviceLimit

theorem isMadeOf_ofEntry (alterId : Int) (limit : Nat) (deviceLimit : Int) (entry : Json) :
    IsMadeOf alterId limit deviceLimit entry (ofEntry alterId limit deviceLimit entry) where
  uid := Kind.reads_iff.2 rfl
  email := rfl
  uuid := Kind.reads_iff.2 rfl
  alterId := rfl
  speedLimit := rfl
  deviceLimit := rfl

private theorem listOfDatas_eq (h : speedLimitBytes mbps = .ok limit) :
    listOfDatas datas mbps deviceLimit =
      .ok ((Lenient.list (datas.get? "user_list")).map
        (ofEntry (Lenient.int (datas.get? "alter_id")) limit deviceLimit)) := by
  unfold listOfDatas
  rw [h]
  rfl

/-! Additions that nothing is read from -/

/-- The keys that are read, each with the path to the object that it is a key of. -/
inductive IsReadAt : List Json.Step → Text → Prop where
  | list : IsReadAt [] "user_list"
  | alterId : IsReadAt [] "alter_id"
  | port (i : Nat) : IsReadAt [.field "user_list", .item i] "port"
  | pass (i : Nat) : IsReadAt [.field "user_list", .item i] "pass"

private theorem ofEntry_putAt (hport : path = [] → "port" ≠ key)
    (hpass : path = [] → "pass" ≠ key) :
    ofEntry alterId limit deviceLimit (Json.putAt key w path entry) =
      ofEntry alterId limit deviceLimit entry := by
  have huid : Lenient.int ((Json.putAt key w path entry).get? "port") =
      Lenient.int (entry.get? "port") :=
    Kind.isScalar_integer.read_putAt hport
  have huuid : Lenient.text ((Json.putAt key w path entry).get? "pass") =
      Lenient.text (entry.get? "pass") :=
    Kind.isScalar_text.read_putAt hpass
  unfold ofEntry
  rw [huid, huuid]

private theorem map_list_map_putAt {α : Type} {f : Json → α}
    (h : ∀ i rest, path = .item i :: rest → ∀ item, f (Json.putAt key w rest item) = f item)
    (x : Option Json) :
    (Lenient.list (x.map (Json.putAt key w path))).map f = (Lenient.list x).map f := by
  cases x with
  | none => rfl
  | some v =>
    cases path with
    | nil => cases v <;> rfl
    | cons step rest =>
      cases step with
      | field name => cases v <;> rfl
      | item i =>
        cases v with
        | arr items => exact map_modify_of_forall (h i rest rfl) items i
        | _ => rfl

private theorem map_list_putAt (h : ¬ IsReadAt path key) :
    (Lenient.list ((Json.putAt key w path datas).get? "user_list")).map
        (ofEntry alterId limit deviceLimit) =
      (Lenient.list (datas.get? "user_list")).map (ofEntry alterId limit deviceLimit) := by
  cases path with
  | nil =>
    have hne : "user_list" ≠ key := by
      rintro rfl
      exact h .list
    rw [Json.get?_put_of_ne hne]
  | cons step path =>
    cases step with
    | field name =>
      rw [Json.get?_putAt_field]
      split
      next hname =>
        subst hname
        apply map_list_map_putAt
        rintro i rest rfl entry
        apply ofEntry_putAt
        · rintro rfl rfl
          exact h (.port i)
        · rintro rfl rfl
          exact h (.pass i)
      next => rfl
    | item i => rw [Json.get?_putAt_item]

private theorem listOfDatas_add {a : Json.Addition} (h : ¬ IsReadAt a.path a.key) :
    listOfDatas (datas.add a) mbps deviceLimit = listOfDatas datas mbps deviceLimit := by
  have halterId :
      Lenient.int ((datas.add a).get? "alter_id") = Lenient.int (datas.get? "alter_id") := by
    apply Kind.isScalar_integer.read_putAt
    intro hpath hkey
    rw [hpath, ← hkey] at h
    exact h .alterId
  unfold listOfDatas
  rw [halterId]
  congr 1
  funext limit
  exact congrArg pure (map_list_putAt h)

private theorem listOfDatas_foldl_add {additions : List Json.Addition}
    (h : ∀ a ∈ additions, ¬ IsReadAt a.path a.key) :
    listOfDatas (additions.foldl Json.add datas) mbps deviceLimit =
      listOfDatas datas mbps deviceLimit := by
  induction additions generalizing datas with
  | nil => rfl
  | cons a additions ih =>
    obtain ⟨hfirst, hrest⟩ := List.forall_mem_cons.1 h
    rw [List.foldl_cons, ih hrest, listOfDatas_add hfirst]

/-! The whole list -/

/-- The data of a list become its users, one for each entry and in the order of the entries. The
text of a number is read as that number, every user passes the check of its record, and nothing
changes with what is put under other keys, anywhere in the data. -/
theorem listOfDatas_of_read [Machine] {source : Text} (h : Json.ofText? source = some datas)
    (hlimit : speedLimitBytes mbps = .ok limit) (deviceLimit : Int) :
    ∃ (entries : List Json) (alterId : Int) (users : List User),
      listOfDatas datas mbps deviceLimit = .ok users ∧
        Kind.list.Reads datas "user_list" entries ∧ Kind.integer.Reads datas "alter_id" alterId ∧
        List.Forall₂ (IsMadeOf alterId limit deviceLimit) entries users ∧
        (∀ user ∈ users, Text.toInt? user.email = some user.uid ∧
          User.ofJson user.toJson = .ok user) ∧
        ∀ additions : List Json.Addition, (∀ a ∈ additions, ¬ IsReadAt a.path a.key) →
          listOfDatas (additions.foldl Json.add datas) mbps deviceLimit = .ok users := by
  have hfits := Json.fitsLimits_of_ofText? h
  have hentries : Kind.list.Reads datas "user_list" (Lenient.list (datas.get? "user_list")) :=
    Kind.reads_iff.2 rfl
  have husers : listOfDatas datas mbps deviceLimit = _ := listOfDatas_eq hlimit
  refine ⟨_, _, _, husers, hentries, Kind.reads_iff.2 rfl, ?_, ?_, ?_⟩
  · apply List.forall₂_map_right_iff.2
    exact List.forall₂_same.2 fun entry _ => isMadeOf_ofEntry _ limit deviceLimit entry
  · intro user huser
    obtain ⟨entry, hentry, rfl⟩ := List.mem_map.1 huser
    have hmade := isMadeOf_ofEntry (Lenient.int (datas.get? "alter_id")) limit deviceLimit entry
    have hreadable := hmade.uid.hasText (hentries.fits_item hfits hentry)
    exact ⟨Text.toInt?_ofInt hreadable, rfl⟩
  · intro additions hadditions
    rw [listOfDatas_foldl_add hadditions, husers]

/-- Two entries, of which one is no object and one has a field of another type. -/
def mixedDatas : Json :=
  .obj [("user_list", .arr [.null, .obj [("pass", .int 1), ("port", .int (-3))]])]

attribute [local instance] Machine.usual

theorem listOfDatas_of_mixed_list :
    Json.ofText? (mixedDatas.write .compact) = some mixedDatas ∧
      speedLimitBytes (.ofInt 8) = .ok 1000000 ∧
      ∃ users, listOfDatas mixedDatas (.ofInt 8) 3 = .ok users ∧ users.length = 2 ∧
        (∀ user ∈ users, Text.toInt? user.email = some user.uid) ∧
        listOfDatas (mixedDatas.add ⟨[.field "user_list", .item 1], "email", .str "x"⟩)
          (.ofInt 8) 3 = .ok users := by
  have hentry : Json.FitsLimits 1 (.obj [("pass", .int 1), ("port", .int (-3))]) := by
    apply Json.Fits.obj (by decide) (by simp)
    simp only [List.forall_mem_cons]
    exact ⟨.int (by decide), .int (by decide), List.forall_mem_nil _⟩
  have hfits : Json.FitsLimits 3 mixedDatas := by
    apply Json.Fits.obj (by decide) (by simp)
    simp only [List.forall_mem_singleton]
    apply Json.Fits.arr
    simp only [List.forall_mem_cons]
    exact ⟨.null, hentry, List.forall_mem_nil _⟩
  have hsource : Json.ofText? (mixedDatas.write .compact) = some mixedDatas :=
    Json.ofText?_write_compact (hfits.mono (by decide))
  have hlimit : speedLimitBytes (.ofInt 8) = .ok 1000000 :=
    Result.toOption_eq_some_iff.1 (by decide +kernel)
  have hunread {path : List Json.Step} {key : Text} (h : IsReadAt path key) : key ≠ "email" := by
    cases h <;> decide
  obtain ⟨entries, alterId, users, husers, hentries, -, hmade, hemail, hadd⟩ :=
    listOfDatas_of_read hsource hlimit 3
  refine ⟨hsource, hlimit, users, husers, ?_, fun user huser => (hemail user huser).1, ?_⟩
  · rw [← hmade.length_eq, ← Kind.reads_iff.1 hentries]
    rfl
  · apply hadd [⟨[.field "user_list", .item 1], "email", .str "x"⟩]
    simp only [List.forall_mem_singleton]
    exact fun h => hunread h rfl

end User

end NodePanel
