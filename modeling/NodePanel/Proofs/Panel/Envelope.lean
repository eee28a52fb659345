import NodePanel.Panel.Envelope
import NodePanel.Proofs.Json.Limits
import NodePanel.Proofs.Number.Integer

/-!
What becomes of a delivery. `Outcome` lists the endings one after the other, each under the
condition that none before it applies, and `Escapes` the deliveries that have none of them, since an
error or the message of an envelope has no text. `datas_eq_iff` says that opening a delivery ends in
these ways and in no other. The fields of an envelope are described by relations on the tree that was
read, so that nothing here depends on how they are looked up.
-/
namespace NodePanel

namespace Json

inductive IsInteger : Json → Int → Prop where
  | int (n : Int) : IsInteger (.int n) n
  | float {negative : Bool} {magnitude : Fin Binary64.limit} {k : Nat}
    (h : Binary64.units magnitude.val = k * Binary64.one) :
    IsInteger (.float (.finite negative magnitude)) (Binary64.withSign negative k)

theorem IsInteger.hasText {p : Text → Prop} {levels : Nat} {v : Json} {n : Int}
    (h : v.IsInteger n) (hfits : v.Fits p levels) : HasText n := by
  cases h with
  | int n =>
    cases hfits with
    | int hlength => exact hlength
  | float hk => exact Binary64.hasText_withSign hk _

end Json

namespace Envelope

theorem codeOf_eq_some_iff {v : Json} {n : Int} : codeOf v = some n ↔ v.IsInteger n := by
  constructor
  · intro h
    cases v with
    | int m =>
      obtain rfl := Option.some.inj h
      exact .int m
    | float x =>
      cases x with
      | finite negative magnitude =>
        obtain ⟨k, hk, rfl⟩ := Binary64.toInt?_finite_eq_some_iff.1 h
        exact .float hk
      | infinite negative => contradiction
      | nan => contradiction
    | null => contradiction
    | bool b => contradiction
    | str t => contradiction
    | arr items => contradiction
    | obj fields => contradiction
  · intro h
    cases h with
    | int => rfl
    | float hk => exact Binary64.toInt?_finite_eq_some_iff.2 ⟨_, hk, rfl⟩

inductive StatusField : Json → Text → Json → Prop where
  | intro {fields status : Json.Fields} {key : Text} {v : Json}
    (hresponse : fields.get? "response" = some (.obj status)) (hfield : status.get? key = some v) :
    StatusField (.obj fields) key v

theorem status_eq_some_iff {tree v : Json} {key : Text} :
    (tree.get? "response").bind (·.get? key) = some v ↔ StatusField tree key v := by
  constructor
  · intro h
    obtain ⟨response, hresponse, hfield⟩ := Option.bind_eq_some_iff.1 h
    cases tree with
    | obj fields =>
      cases response with
      | obj status => exact .intro hresponse hfield
      | _ => contradiction
    | _ => contradiction
  · rintro ⟨hresponse, hfield⟩
    exact Option.bind_eq_some_iff.2 ⟨_, hresponse, hfield⟩

theorem status_eq_none_iff {tree : Json} {key : Text} :
    (tree.get? "response").bind (·.get? key) = none ↔ ∀ v, ¬ StatusField tree key v := by
  rw [Option.eq_none_iff_forall_ne_some]
  exact forall_congr' fun v => not_congr status_eq_some_iff

/-- The code of an envelope, which only a number without a fraction is. -/
inductive HasCode (tree : Json) : Option Int → Prop where
  | integer {v : Json} {n : Int} (hfield : StatusField tree "code" v) (h : v.IsInteger n) :
    HasCode tree (some n)
  | other (h : ∀ v n, StatusField tree "code" v → ¬ v.IsInteger n) : HasCode tree none

private theorem eq_obj_of_hasCode {tree : Json} {n : Int} (h : HasCode tree (some n)) :
    ∃ fields, tree = .obj fields := by
  cases h with
  | integer hfield _ =>
    cases hfield with
    | intro => exact ⟨_, rfl⟩

theorem field_eq {tree v : Json} {key : Text} (h : StatusField tree key v) : field tree key = v := by
  unfold field
  rw [status_eq_some_iff.2 h]
  rfl

theorem field_eq_null {tree : Json} {key : Text} (h : ∀ v, ¬ StatusField tree key v) :
    field tree key = .null := by
  unfold field
  rw [status_eq_none_iff.2 h]
  rfl

theorem codeOf_field_eq_some_iff {tree : Json} {n : Int} :
    codeOf (field tree "code") = some n ↔ ∃ v, StatusField tree "code" v ∧ v.IsInteger n := by
  constructor
  · intro hcode
    by_cases h : ∃ v, StatusField tree "code" v
    · obtain ⟨v, hfield⟩ := h
      rw [field_eq hfield] at hcode
      exact ⟨v, hfield, codeOf_eq_some_iff.1 hcode⟩
    · rw [field_eq_null (not_exists.1 h)] at hcode
      contradiction
  · rintro ⟨v, hfield, hcode⟩
    rw [field_eq hfield]
    exact codeOf_eq_some_iff.2 hcode

theorem codeOf_field_eq_iff {tree : Json} {code : Option Int} :
    codeOf (field tree "code") = code ↔ HasCode tree code := by
  constructor
  · rintro rfl
    cases h : codeOf (field tree "code") with
    | none =>
      refine .other fun v n hfield hcode => ?_
      rw [codeOf_field_eq_some_iff.2 ⟨v, hfield, hcode⟩] at h
      contradiction
    | some n =>
      obtain ⟨v, hfield, hcode⟩ := codeOf_field_eq_some_iff.1 h
      exact .integer hfield hcode
  · intro h
    cases h with
    | integer hfield hcode => exact codeOf_field_eq_some_iff.2 ⟨_, hfield, hcode⟩
    | other hno =>
      rw [Option.eq_none_iff_forall_ne_some]
      intro n hn
      obtain ⟨v, hfield, hcode⟩ := codeOf_field_eq_some_iff.1 hn
      exact hno v n hfield hcode

private theorem StatusField.fits {p : Text → Prop} {levels : Nat} {tree v : Json} {key : Text}
    (h : StatusField tree key v) (hfits : tree.Fits p levels) : v.Fits p levels := by
  obtain ⟨hresponse, hfield⟩ := h
  exact (hfits.get? hresponse).get? hfield

theorem HasCode.hasText {p : Text → Prop} {levels : Nat} {tree : Json} {n : Int}
    (h : HasCode tree (some n)) (hfits : tree.Fits p levels) : HasText n := by
  cases h with
  | integer hfield hcode => exact hcode.hasText (hfield.fits hfits)

inductive HasMessage (tree : Json) : Text → Prop where
  | absent (h : ∀ v, ¬ StatusField tree "message" v) : HasMessage tree []
  | null (hfield : StatusField tree "message" .null) : HasMessage tree []
  | text {t : Text} (hfield : StatusField tree "message" (.str t)) : HasMessage tree t
  | other {v : Json} (hfield : StatusField tree "message" v) (hnull : v ≠ .null)
    (htext : ∀ t, v ≠ .str t) : HasMessage tree (v.write .spaced)

theorem exists_message (tree : Json) : ∃ message, HasMessage tree message := by
  by_cases h : ∃ v, StatusField tree "message" v
  · obtain ⟨v, hfield⟩ := h
    by_cases hnull : v = .null
    · subst hnull
      exact ⟨_, .null hfield⟩
    · by_cases htext : ∃ t, v = .str t
      · obtain ⟨t, rfl⟩ := htext
        exact ⟨t, .text hfield⟩
      · exact ⟨_, .other hfield hnull (not_exists.1 htext)⟩
  · exact ⟨_, .absent (not_exists.1 h)⟩

variable [Machine]

def IsTooDeep (tree : Json) : Prop :=
  ∃ v, StatusField tree "message" v ∧ Machine.messageLimit < v.depth

private theorem messageOf_of_deep {v : Json} (h : Machine.messageLimit < v.depth) :
    messageOf v = .error .nesting := by
  unfold messageOf
  split
  · contradiction
  · contradiction
  · exact if_neg (Nat.not_le.2 h)

private theorem messageOf_other {v : Json} (hnull : v ≠ .null) (htext : ∀ t, v ≠ .str t)
    (hdepth : v.depth ≤ Machine.messageLimit) : messageOf v = .ok (v.write .spaced) := by
  unfold messageOf
  split
  · contradiction
  next t => exact absurd rfl (htext t)
  · exact if_pos hdepth

private theorem messageOf_field {tree : Json} {message : Text} (h : HasMessage tree message)
    (hdeep : ¬ IsTooDeep tree) : messageOf (field tree "message") = .ok message := by
  cases h with
  | absent hno =>
    rw [field_eq_null hno]
    rfl
  | null hfield =>
    rw [field_eq hfield]
    rfl
  | text hfield =>
    rw [field_eq hfield]
    rfl
  | other hfield hnull htext =>
    rw [field_eq hfield]
    exact messageOf_other hnull htext (Nat.not_lt.1 fun h => hdeep ⟨_, hfield, h⟩)

private theorem ofJson_of_message {tree : Json} {code : Option Int} {message : Text}
    (hcode : HasCode tree code) (hmessage : HasMessage tree message) (hdeep : ¬ IsTooDeep tree) :
    ofJson tree = .ok ⟨code, message, (tree.get? "datas").getD .null⟩ := by
  unfold ofJson
  rw [messageOf_field hmessage hdeep, codeOf_field_eq_iff.2 hcode]
  rfl

private theorem ofJson_of_deep {tree : Json} (h : IsTooDeep tree) :
    ofJson tree = .error .nesting := by
  obtain ⟨v, hfield, hdepth⟩ := h
  unfold ofJson
  rw [field_eq hfield, messageOf_of_deep hdepth]
  rfl

end Envelope

namespace Delivery

private theorem eq_of_mapError_panel {α : Type} {result result' : Except PanelError α}
    (h : result.mapError CallError.panel = result'.mapError .panel) : result = result' := by
  cases result <;> cases result' <;> cases h <;> rfl

private theorem mapError_panel_ne_escape {α : Type} (result : Except PanelError α)
    (escape : Escape) : result.mapError CallError.panel ≠ .error (.escape escape) := by
  cases result <;> exact nofun

variable [Machine]

/-- The endings of a delivery, each where none of those before it applies. -/
inductive Outcome (path url : Text) : Delivery → Except PanelError Json → Prop where
  | failed (response : Option Response) (error : SendError) :
    Outcome path url ⟨response, some error⟩ (.error ⟨path, url, .transport error true⟩)
  | unanswered :
    Outcome path url ⟨none, none⟩
      (.error ⟨path, url, .transport ⟨.state, "no response"⟩ false⟩)
  | status {response : Response} (hstatus : 400 ≤ response.statusCode) :
    Outcome path url ⟨some response, none⟩
      (.error ⟨path, url, .http response.statusCode response.body⟩)
  | malformed {response : Response} (hstatus : response.statusCode < 400)
    (hbody : Json.ofOctets? response.body = none) :
    Outcome path url ⟨some response, none⟩ (.error ⟨path, url, .malformedBody response.body⟩)
  | opened {response : Response} {fields : Json.Fields} (hstatus : response.statusCode < 400)
    (hbody : Json.ofOctets? response.body = some (.obj fields))
    (hcode : Envelope.HasCode (.obj fields) (some 200)) :
    Outcome path url ⟨some response, none⟩ (.ok ((fields.get? "datas").getD .null))
  | refused {response : Response} {tree : Json} {code : Option Int} {message : Text}
    (hstatus : response.statusCode < 400) (hbody : Json.ofOctets? response.body = some tree)
    (hcode : Envelope.HasCode tree code) (hother : code ≠ some 200)
    (hmessage : Envelope.HasMessage tree message) :
    Outcome path url ⟨some response, none⟩
      (.error ⟨path, url, .application code message response.body⟩)

/-- The deliveries that end in none of these ways: there is no text of the error that came with one,
of its status, or of the message in its envelope, whatever the code there. -/
inductive Escapes : Delivery → Escape → Prop where
  | silent (response : Option Response) {error : SendError} (h : error.message = none) :
    Escapes ⟨response, some error⟩ (.silent error)
  | status {response : Response} (hstatus : 400 ≤ response.statusCode)
    (h : ¬ HasText response.statusCode) : Escapes ⟨some response, none⟩ .digits
  | message {response : Response} {tree v : Json} (hstatus : response.statusCode < 400)
    (hbody : Json.ofOctets? response.body = some tree)
    (hfield : Envelope.StatusField tree "message" v) (hdeep : Machine.messageLimit < v.depth) :
    Escapes ⟨some response, none⟩ .nesting

theorem openEnvelope_of_status {path url : Text} {response : Response}
    (h : 400 ≤ response.statusCode) :
    openEnvelope path url response =
      .error (PanelError.raised ⟨path, url, .http response.statusCode response.body⟩) :=
  if_pos h

private theorem openEnvelope_of_malformed {path url : Text} {response : Response}
    (hstatus : response.statusCode < 400) (hbody : Json.ofOctets? response.body = none) :
    openEnvelope path url response = .error (.panel ⟨path, url, .malformedBody response.body⟩) := by
  unfold openEnvelope
  rw [if_neg (Int.not_le.2 hstatus), hbody]
  rfl

private theorem openEnvelope_of_deep {path url : Text} {response : Response} {tree : Json}
    (hstatus : response.statusCode < 400) (hbody : Json.ofOctets? response.body = some tree)
    (hdeep : Envelope.IsTooDeep tree) :
    openEnvelope path url response = .error (.escape .nesting) := by
  unfold openEnvelope
  rw [if_neg (Int.not_le.2 hstatus), hbody]
  dsimp only
  rw [Envelope.ofJson_of_deep hdeep]

theorem openEnvelope_of_tree {path url : Text} {response : Response} {tree : Json}
    {code : Option Int} {message : Text} (hstatus : response.statusCode < 400)
    (hbody : Json.ofOctets? response.body = some tree) (hcode : Envelope.HasCode tree code)
    (hmessage : Envelope.HasMessage tree message) (hdeep : ¬ Envelope.IsTooDeep tree) :
    openEnvelope path url response =
      if code = some 200 then .ok ((tree.get? "datas").getD .null)
      else .error (PanelError.raised ⟨path, url, .application code message response.body⟩) := by
  unfold openEnvelope
  rw [if_neg (Int.not_le.2 hstatus), hbody]
  dsimp only
  rw [Envelope.ofJson_of_message hcode hmessage hdeep]
  rfl

theorem exists_outcome (path url : Text) (d : Delivery) : ∃ result, Outcome path url d result := by
  obtain ⟨response, error⟩ := d
  cases error with
  | some error => exact ⟨_, .failed response error⟩
  | none =>
    cases response with
    | none => exact ⟨_, .unanswered⟩
    | some response =>
      by_cases hstatus : 400 ≤ response.statusCode
      · exact ⟨_, .status hstatus⟩
      · have hstatus := Int.not_le.1 hstatus
        cases hbody : Json.ofOctets? response.body with
        | none => exact ⟨_, .malformed hstatus hbody⟩
        | some tree =>
          obtain ⟨message, hmessage⟩ := Envelope.exists_message tree
          have hcode : Envelope.HasCode tree (Envelope.codeOf (Envelope.field tree "code")) :=
            Envelope.codeOf_field_eq_iff.1 rfl
          by_cases hsuccess : Envelope.codeOf (Envelope.field tree "code") = some 200
          · rw [hsuccess] at hcode
            obtain ⟨fields, rfl⟩ := Envelope.eq_obj_of_hasCode hcode
            exact ⟨_, .opened hstatus hbody hcode⟩
          · exact ⟨_, .refused hstatus hbody hcode hsuccess hmessage⟩

theorem datas_of_escapes {d : Delivery} {escape : Escape} (h : d.Escapes escape)
    (path url : Text) : d.datas path url = .error (.escape escape) := by
  cases h with
  | silent response h =>
    show Except.error (PanelError.raised _) = _
    simp [PanelError.raised, PanelError.escape?, h]
  | status hstatus h =>
    refine (openEnvelope_of_status hstatus).trans ?_
    simp [PanelError.raised, PanelError.escape?, h]
  | message hstatus hbody hfield hdeep => exact openEnvelope_of_deep hstatus hbody ⟨_, hfield, hdeep⟩

theorem datas_of_outcome {path url : Text} {d : Delivery} {result : Except PanelError Json}
    (h : Outcome path url d result) (hescape : ∀ escape, ¬ d.Escapes escape) :
    d.datas path url = result.mapError .panel := by
  cases h with
  | failed response error =>
    have htext : error.message ≠ none := fun h => hescape _ (.silent response h)
    show Except.error (PanelError.raised _) = _
    simp [PanelError.raised, PanelError.escape?, htext]
  | unanswered => rfl
  | @status response hstatus =>
    have htext : HasText response.statusCode :=
      Decidable.not_not.1 fun h => hescape _ (.status hstatus h)
    refine (openEnvelope_of_status hstatus).trans ?_
    simp [PanelError.raised, PanelError.escape?, htext]
  | malformed hstatus hbody => exact openEnvelope_of_malformed hstatus hbody
  | @opened response fields hstatus hbody hcode =>
    obtain ⟨message, hmessage⟩ := Envelope.exists_message (.obj fields)
    have hdeep : ¬ Envelope.IsTooDeep (.obj fields) := fun ⟨_, hfield, hdepth⟩ =>
      hescape _ (.message hstatus hbody hfield hdepth)
    exact (openEnvelope_of_tree hstatus hbody hcode hmessage hdeep).trans (if_pos rfl)
  | @refused response tree code message hstatus hbody hcode hother hmessage =>
    have hdeep : ¬ Envelope.IsTooDeep tree := fun ⟨_, hfield, hdepth⟩ =>
      hescape _ (.message hstatus hbody hfield hdepth)
    have htext : ∀ n ∈ code, HasText n := by
      rintro n rfl
      exact hcode.hasText (Json.fitsLimits_of_ofOctets? hbody)
    refine (openEnvelope_of_tree hstatus hbody hcode hmessage hdeep).trans ?_
    rw [if_neg hother]
    simp only [PanelError.raised, PanelError.escape?]
    rw [if_neg fun ⟨n, hn, hlong⟩ => hlong (htext n hn)]
    rfl

theorem outcome_of_datas {path url : Text} {d : Delivery} {result : Except PanelError Json}
    (h : d.datas path url = result.mapError .panel) :
    Outcome path url d result ∧ ∀ escape, ¬ d.Escapes escape := by
  have hescape (escape : Escape) : ¬ d.Escapes escape := by
    intro hd
    rw [datas_of_escapes hd] at h
    exact mapError_panel_ne_escape result escape h.symm
  obtain ⟨ending, hending⟩ := exists_outcome path url d
  rw [datas_of_outcome hending hescape] at h
  exact ⟨eq_of_mapError_panel h ▸ hending, hescape⟩

theorem outcome_of_datas_eq_ok {path url : Text} {d : Delivery} {datas : Json}
    (h : d.datas path url = .ok datas) :
    Outcome path url d (.ok datas) ∧ ∀ escape, ¬ d.Escapes escape :=
  @outcome_of_datas _ path url d (.ok datas) h

theorem escapes_of_datas {path url : Text} {d : Delivery} {escape : Escape}
    (h : d.datas path url = .error (.escape escape)) : d.Escapes escape := by
  by_cases hsome : ∃ escape', d.Escapes escape'
  · obtain ⟨escape', hd⟩ := hsome
    rw [datas_of_escapes hd] at h
    cases h
    exact hd
  · obtain ⟨ending, hending⟩ := exists_outcome path url d
    rw [datas_of_outcome hending (not_exists.1 hsome)] at h
    exact absurd h (mapError_panel_ne_escape ending escape)

theorem place_of_datas_eq_error {path url : Text} {d : Delivery} {error : PanelError}
    (h : d.datas path url = .error (.panel error)) : error.path = path ∧ error.url = url := by
  obtain ⟨houtcome, -⟩ := @outcome_of_datas _ path url d (.error error) h
  cases houtcome <;> exact ⟨rfl, rfl⟩

end Delivery

end NodePanel
