import NodePanel.Panel.Endpoint
import NodePanel.Proofs.Encoding.Utf8
import NodePanel.Proofs.Json.ReadBack
import NodePanel.Proofs.Result

/-!
Reports on the wire. The body of a report is the records themselves: whoever reads its text as JSON
and each item as a record has what was reported, in its order and as often as it was reported.
-/
namespace NodePanel

theorem Text.isUnpaired_of_isScalar {t : Text} (h : Utf8.IsScalar t) : t.IsUnpaired := by
  induction t with
  | nil => exact List.isChain_nil
  | cons c t ih =>
    have hrest := (Utf8.isScalar_cons_iff.1 h).2
    refine List.isChain_cons.2 ⟨fun d hd _ => ?_, ih hrest⟩
    have hsurrogate := hrest d (List.mem_of_mem_head? hd)
    simp only [CodePoint.isSurrogate, Bool.and_eq_false_iff, decide_eq_false_iff_not] at hsurrogate
    simp only [CodePoint.isLowSurrogate, Bool.and_eq_false_iff, decide_eq_false_iff_not]
    omega

/-- How one kind of record is written and read, and which records can be written. -/
structure WireForm (α : Type) where
  toJson : α → Json
  ofJson : Json → Checked α
  IsWritable : α → Prop
  fits_toJson : ∀ {a}, IsWritable a → (toJson a).Fits Text.IsUnpaired 1
  ofJson_toJson : ∀ a, ofJson (toJson a) = .ok a

namespace WireForm

variable {α : Type} (form : WireForm α)

@[simp] theorem each_toJson (records : List α) :
    Checked.each form.ofJson (records.map form.toJson) = .ok records := by
  unfold Checked.each
  induction records with
  | nil => rfl
  | cons a records ih =>
    rw [List.map_cons, List.mapM_cons, ih, form.ofJson_toJson]
    rfl

variable [Machine] {style : Json.Style} (hstyle : style.IsStandard)

/-- A body whose text is that of a list, the items of which are read as `records`. -/
def IsReadAs (style : Json.Style) (body : Json) (records : List α) : Prop :=
  ∃ items, Json.ofText? (body.write style) = some (.arr items) ∧
    Checked.each form.ofJson items = .ok records

include hstyle

private theorem ofText?_one {a : α} (h : form.IsWritable a) :
    Json.ofText? ((form.toJson a).write style) = some (form.toJson a) :=
  Json.ofText?_write hstyle (fun _ _ ht => ht)
    ((form.fits_toJson h).mono (Nat.le_trans (by decide) Machine.two_le_bodyLimit))

theorem ofText?_list {records : List α} (h : ∀ a ∈ records, form.IsWritable a) :
    Json.ofText? (Json.write style (.arr (records.map form.toJson))) =
      some (.arr (records.map form.toJson)) := by
  have hfits : Json.Fits Text.IsUnpaired 2 (.arr (records.map form.toJson)) := by
    apply Json.Fits.arr
    intro v hv
    obtain ⟨a, ha, rfl⟩ := List.mem_map.1 hv
    exact form.fits_toJson (h a ha)
  exact Json.ofText?_write hstyle (fun _ _ ht => ht) (hfits.mono Machine.two_le_bodyLimit)

theorem isReadAs_list {records : List α} (h : ∀ a ∈ records, form.IsWritable a) :
    form.IsReadAs style (.arr (records.map form.toJson)) records :=
  ⟨records.map form.toJson, form.ofText?_list hstyle h, form.each_toJson records⟩

end WireForm

/-! The four kinds of records -/

theorem Json.fits_record {fields : Json.Fields} (names : List Text)
    (hnames : fields.map (·.1) = names) (hnodup : names.Nodup)
    (hunpaired : ∀ name ∈ names, name.IsUnpaired)
    (h : ∀ f ∈ fields, Json.Fits Text.IsUnpaired 0 f.2) :
    Json.Fits Text.IsUnpaired 1 (.obj fields) := by
  subst hnames
  exact .obj hnodup (fun f hf => hunpaired f.1 (List.mem_map_of_mem hf)) h

/-- Only the time has to be short: a number of any value has a text. -/
def NodeStatus.wireForm : WireForm NodeStatus where
  toJson := toJson
  ofJson := ofJson
  IsWritable s := HasText s.uptime
  fits_toJson h := by
    refine Json.fits_record ["CPU", "Mem", "Disk", "Uptime"] rfl (by decide) (by decide) ?_
    simp only [List.forall_mem_cons]
    exact ⟨.float _, .float _, .float _, .int h, nofun⟩
  ofJson_toJson _ := rfl

def OnlineUser.wireForm : WireForm OnlineUser where
  toJson := toJson
  ofJson := ofJson
  IsWritable u := HasText u.uid ∧ Utf8.IsScalar u.ip
  fits_toJson h := by
    refine Json.fits_record ["UID", "IP"] rfl (by decide) (by decide) ?_
    simp only [List.forall_mem_cons]
    exact ⟨.int h.1, .str (Text.isUnpaired_of_isScalar h.2), nofun⟩
  ofJson_toJson _ := rfl

def Traffic.wireForm : WireForm Traffic where
  toJson := toJson
  ofJson := ofJson
  IsWritable t := HasText t.uid ∧ Utf8.IsScalar t.email ∧ HasText t.upload ∧ HasText t.download
  fits_toJson h := by
    refine Json.fits_record ["UID", "Email", "Upload", "Download"] rfl (by decide) (by decide) ?_
    simp only [List.forall_mem_cons]
    exact ⟨.int h.1, .str (Text.isUnpaired_of_isScalar h.2.1), .int h.2.2.1, .int h.2.2.2, nofun⟩
  ofJson_toJson _ := rfl

def HitReport.hit (r : HitReport) : Hit := ⟨r.uid, r.ruleId⟩

def Hit.wireForm : WireForm Hit where
  toJson r := (HitReport.ofHit r).toJson
  ofJson v := HitReport.hit <$> HitReport.ofJson v
  IsWritable r := HasText r.uid ∧ HasText r.ruleId
  fits_toJson h := by
    refine Json.fits_record ["id", "uid"] rfl (by decide) (by decide) ?_
    simp only [List.forall_mem_cons]
    exact ⟨.int h.2, .int h.1, nofun⟩
  ofJson_toJson _ := rfl

namespace Request

/-- There is a request exactly if the number of the node has a text, and then it has such a body. -/
def IsMade (nodeId : Int) (body : Json → Prop) (made : Except Escape Request) : Prop :=
  (HasText nodeId → ∃ r, made = .ok r ∧ body r.body) ∧
    (¬ HasText nodeId → made = .error .digits)

theorem isMade_report {p : Json → Prop} {body : Json} (h : p body) (e : Endpoint) (nodeId : Int) :
    IsMade nodeId p (e.report nodeId body) := by
  unfold Endpoint.report Endpoint.nodeQuery
  constructor
  · intro hnode
    rw [if_pos hnode]
    exact ⟨_, rfl, h⟩
  · intro hnode
    rw [if_neg hnode]
    rfl

/-- The text of a report, in any style, gives the records that were reported, and without records it
is the empty list. -/
theorem records_of_report [Machine] {style : Json.Style} (hstyle : style.IsStandard)
    (nodeId : Int) :
    (∀ status : NodeStatus, HasText status.uptime →
      IsMade nodeId (fun body => ∃ v, Json.ofText? (body.write style) = some v ∧
        NodeStatus.ofJson v = .ok status) (nodeStatus nodeId status)) ∧
    (∀ users : List OnlineUser, (∀ u ∈ users, HasText u.uid ∧ Utf8.IsScalar u.ip) →
      IsMade nodeId (OnlineUser.wireForm.IsReadAs style · users) (onlineUsers nodeId users)) ∧
    (∀ traffic : List Traffic,
      (∀ t ∈ traffic, HasText t.uid ∧ Utf8.IsScalar t.email ∧ HasText t.upload ∧
        HasText t.download) →
      IsMade nodeId (Traffic.wireForm.IsReadAs style · traffic) (userTraffic nodeId traffic)) ∧
    (∀ hits : List Hit, (∀ hit ∈ hits, HasText hit.uid ∧ HasText hit.ruleId) →
      IsMade nodeId (Hit.wireForm.IsReadAs style · hits) (illegal nodeId hits)) ∧
    IsMade nodeId (·.write style = Text.ofString "[]") (onlineUsers nodeId []) ∧
    IsMade nodeId (·.write style = Text.ofString "[]") (userTraffic nodeId []) ∧
    IsMade nodeId (·.write style = Text.ofString "[]") (illegal nodeId []) := by
  have hempty : Json.write style (.arr []) = Text.ofString "[]" := rfl
  refine ⟨fun status h => ?_, fun users h => ?_, fun traffic h => ?_, fun hits h => ?_, ?_, ?_, ?_⟩
  · exact isMade_report ⟨status.toJson, NodeStatus.wireForm.ofText?_one hstyle h, rfl⟩ _ nodeId
  · exact isMade_report (OnlineUser.wireForm.isReadAs_list hstyle h) _ nodeId
  · exact isMade_report (Traffic.wireForm.isReadAs_list hstyle h) _ nodeId
  · exact isMade_report (Hit.wireForm.isReadAs_list hstyle h) _ nodeId
  · exact isMade_report hempty _ nodeId
  · exact isMade_report hempty _ nodeId
  · exact isMade_report hempty _ nodeId

attribute [local instance] Machine.usual

/-- Records that are reported twice are read twice, and no letter is lost. -/
theorem records_of_repeated_report :
    Json.Style.compact.IsStandard ∧ HasText (86400 : Nat) ∧
      (∀ u ∈ ([⟨7, "é"⟩, ⟨7, "é"⟩] : List OnlineUser), HasText u.uid ∧ Utf8.IsScalar u.ip) ∧
      (∀ t ∈ ([⟨7, "\"", 0, -1⟩] : List Traffic),
        HasText t.uid ∧ Utf8.IsScalar t.email ∧ HasText t.upload ∧ HasText t.download) ∧
      (∀ hit ∈ ([⟨7, 2⟩, ⟨2, 7⟩] : List Hit), HasText hit.uid ∧ HasText hit.ruleId) ∧
      (∃ r, nodeStatus 1 ⟨.zero, .zero, .zero, 86400⟩ = .ok r ∧
        ∃ v, Json.ofText? (r.body.write .compact) = some v ∧
          NodeStatus.ofJson v = .ok ⟨.zero, .zero, .zero, 86400⟩) ∧
      (∃ r, onlineUsers 1 [⟨7, "é"⟩, ⟨7, "é"⟩] = .ok r ∧
        OnlineUser.wireForm.IsReadAs .compact r.body [⟨7, "é"⟩, ⟨7, "é"⟩]) ∧
      (∃ r, userTraffic 1 [⟨7, "\"", 0, -1⟩] = .ok r ∧
        Traffic.wireForm.IsReadAs .compact r.body [⟨7, "\"", 0, -1⟩]) ∧
      ∃ r, illegal 1 [⟨7, 2⟩, ⟨2, 7⟩] = .ok r ∧
        Hit.wireForm.IsReadAs .compact r.body [⟨7, 2⟩, ⟨2, 7⟩] := by
  have hnode : HasText 1 := by decide
  have hstatus : HasText (86400 : Nat) := by decide
  have husers : ∀ u ∈ ([⟨7, "é"⟩, ⟨7, "é"⟩] : List OnlineUser),
      HasText u.uid ∧ Utf8.IsScalar u.ip := by decide
  have htraffic : ∀ t ∈ ([⟨7, "\"", 0, -1⟩] : List Traffic),
      HasText t.uid ∧ Utf8.IsScalar t.email ∧ HasText t.upload ∧ HasText t.download := by decide
  have hhits : ∀ hit ∈ ([⟨7, 2⟩, ⟨2, 7⟩] : List Hit), HasText hit.uid ∧ HasText hit.ruleId := by
    decide
  obtain ⟨hone, honline, htransfers, hillegal, -⟩ :=
    records_of_report Json.Style.isStandard_compact 1
  exact ⟨Json.Style.isStandard_compact, hstatus, husers, htraffic, hhits, (hone _ hstatus).1 hnode,
    (honline _ husers).1 hnode, (htransfers _ htraffic).1 hnode, (hillegal _ hhits).1 hnode⟩

end Request

end NodePanel
