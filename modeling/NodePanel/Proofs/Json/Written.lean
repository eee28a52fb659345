import NodePanel.Json.Writer

/-!
The text of a value by its parts. The text is built back to front onto what is already there; here
it is put together from the texts of the items and of the fields, with separators between them.
-/
namespace NodePanel.Json

@[elab_as_elim]
theorem ind {motive : Json → Prop} (null : motive null) (bool : ∀ b, motive (bool b))
    (int : ∀ n, motive (int n)) (float : ∀ x, motive (float x)) (str : ∀ t, motive (str t))
    (arr : ∀ items, (∀ v ∈ items, motive v) → motive (arr items))
    (obj : ∀ fields : Fields, (∀ f ∈ fields, motive f.2) → motive (obj fields)) (v : Json) :
    motive v :=
  @Json.rec motive (fun items => ∀ v ∈ items, motive v) (fun fields => ∀ f ∈ fields, motive f.2)
    (fun f => motive f.2) null bool int float str arr obj nofun
    (fun _ _ hitem hitems => List.forall_mem_cons.2 ⟨hitem, hitems⟩) nofun
    (fun _ _ hfield hfields => List.forall_mem_cons.2 ⟨hfield, hfields⟩) (fun _ _ hvalue => hvalue) v

variable (style : Style)

def fieldText (field : Text × Json) : Text :=
  stringText style.asciiOnly field.1 ++ style.keySeparator ++ write style field.2

def later {α : Type} (piece : α → Text) (items : List α) : Text :=
  items.flatMap fun item => style.itemSeparator ++ piece item

def between {α : Type} (piece : α → Text) : List α → Text
  | [] => []
  | item :: items => piece item ++ later style piece items

variable {style}

/-! The texts that are built back to front -/

theorem writeItems_eq {items : List Json} {done : Text}
    (h : ∀ v ∈ items, ∀ done, writeOnto style v done = (write style v).reverse ++ done) :
    writeItems style true items done = (later style (write style) items).reverse ++ done ∧
      writeItems style false items done = (between style (write style) items).reverse ++ done := by
  induction items generalizing done with
  | nil => exact ⟨rfl, rfl⟩
  | cons item items ih =>
    have hitem := h item List.mem_cons_self
    have hitems (done : Text) : writeItems style true items done =
        (later style (write style) items).reverse ++ done :=
      (ih fun v hv => h v (List.mem_cons_of_mem item hv)).1
    constructor
    · show writeItems style true items (writeOnto style item (push style.itemSeparator done)) = _
      rw [hitem, hitems]
      simp [later, push]
    · show writeItems style true items (writeOnto style item done) = _
      rw [hitem, hitems]
      simp [between]

theorem writeFields_eq {fields : Fields} {done : Text}
    (h : ∀ f ∈ fields, ∀ done, writeOnto style f.2 done = (write style f.2).reverse ++ done) :
    writeFields style true fields done = (later style (fieldText style) fields).reverse ++ done ∧
      writeFields style false fields done =
        (between style (fieldText style) fields).reverse ++ done := by
  induction fields generalizing done with
  | nil => exact ⟨rfl, rfl⟩
  | cons field fields ih =>
    obtain ⟨key, value⟩ := field
    have hvalue := h (key, value) List.mem_cons_self
    have hfields (done : Text) : writeFields style true fields done =
        (later style (fieldText style) fields).reverse ++ done :=
      (ih fun f hf => h f (List.mem_cons_of_mem _ hf)).1
    constructor
    · show writeFields style true fields (writeOnto style value (push style.keySeparator
        (push (stringText style.asciiOnly key) (push style.itemSeparator done)))) = _
      rw [hvalue, hfields]
      simp [later, fieldText, push]
    · show writeFields style true fields (writeOnto style value (push style.keySeparator
        (push (stringText style.asciiOnly key) done))) = _
      rw [hvalue, hfields]
      simp [between, fieldText, push]

theorem writeOnto_eq (v : Json) (done : Text) :
    writeOnto style v done = (write style v).reverse ++ done := by
  induction v using ind generalizing done with
  | null => simp [write, writeOnto, push]
  | bool b => simp [write, writeOnto, push]
  | int n => simp [write, writeOnto, push]
  | float x => simp [write, writeOnto, push]
  | str t => simp [write, writeOnto, push]
  | arr items ih => simp [write, writeOnto, (writeItems_eq ih).2]
  | obj fields ih => simp [write, writeOnto, (writeFields_eq ih).2]

/-! The text of each kind of value -/

@[simp] theorem write_bool (b : Bool) :
    write style (bool b) = (if b then "true" else "false" : Text) := by
  cases b <;> rfl

@[simp] theorem write_int (n : Int) : write style (int n) = Text.ofInt n := by
  simp [write, writeOnto, push]

@[simp] theorem write_float (x : Binary64) : write style (float x) = floatText x := by
  simp [write, writeOnto, push]

@[simp] theorem write_str (t : Text) : write style (str t) = stringText style.asciiOnly t := by
  simp [write, writeOnto, push]

@[simp] theorem write_arr (items : List Json) :
    write style (arr items) =
      CodePoint.ofChar '[' :: (between style (write style) items ++ [CodePoint.ofChar ']']) := by
  simp [write, writeOnto, (writeItems_eq fun v _ => writeOnto_eq v).2]

@[simp] theorem write_obj (fields : Fields) :
    write style (obj fields) =
      CodePoint.ofChar '\x7b' ::
        (between style (fieldText style) fields ++ [CodePoint.ofChar '\x7d']) := by
  simp [write, writeOnto, (writeFields_eq fun f _ => writeOnto_eq f.2).2]

end NodePanel.Json
