import NodePanel.Proofs.Encoding.Detect
import NodePanel.Proofs.Json.Lexemes
import NodePanel.Proofs.Json.ReadBack
import NodePanel.Proofs.Panel.Envelope

/-!
Bodies on the wire. A value that is written as ASCII JSON and put into any of the encodings is read
from the octets, so an envelope with the code of success gives its data.
-/
namespace NodePanel

theorem Json.ofOctets?_encode_write [Machine] {v : Json}
    (h : v.Fits Text.IsUnpaired Machine.bodyLimit) (e : Encoding) :
    ofOctets? (e.encode (v.write .ascii)) = some v := by
  unfold ofOctets?
  rw [Encoding.read?_encode e (isPlainAscii_write v)]
  exact ofText?_write Style.isStandard_ascii (fun _ _ ht => ht) h

def Json.nested : Nat → Json
  | 0 => .null
  | n + 1 => .arr [nested n]

@[simp] theorem Json.depth_nested (n : Nat) : (nested n).depth = n := by
  induction n with
  | zero => rfl
  | succ n ih => simp [nested, depth, depthOfItems, ih]

private theorem Json.fits_nested {p : Text → Prop} (n : Nat) : (nested n).Fits p n := by
  induction n with
  | zero => exact .null
  | succ n ih => exact .arr (by simpa using ih)

namespace Delivery

section

variable [Machine]

private theorem not_escapes_of_body {response : Response} {fields status : Json.Fields}
    (hstatus : response.statusCode < 400)
    (hbody : Json.ofOctets? response.body = some (.obj fields))
    (hresponse : fields.get? "response" = some (.obj status))
    (hmessage : ∀ v, status.get? "message" = some v → v.depth ≤ Machine.messageLimit)
    (escape : Escape) : ¬ Escapes ⟨some response, none⟩ escape := by
  intro h
  cases h with
  | status herror => omega
  | message _ htree hfield hdeep =>
    cases hbody.symm.trans htree
    obtain ⟨hresponse', hget⟩ := hfield
    cases hresponse.symm.trans hresponse'
    exact Nat.not_le.2 hdeep (hmessage _ hget)

/-- Whatever else an envelope with the code of success holds, its data come out of the body as they
went into it. -/
theorem datas_of_written {response : Response} {fields status : Json.Fields} {code d : Json}
    {e : Encoding} (path url : Text) (hstatus : response.statusCode < 400)
    (hbody : response.body = e.encode (Json.write .ascii (.obj fields)))
    (hfits : Json.Fits Text.IsUnpaired Machine.bodyLimit (.obj fields))
    (hresponse : fields.get? "response" = some (.obj status))
    (hmessage : ∀ v, status.get? "message" = some v → v.depth ≤ Machine.messageLimit)
    (hfield : status.get? "code" = some code) (hcode : code.IsInteger 200)
    (hdatas : fields.get? "datas" = some d) :
    datas path url ⟨some response, none⟩ = .ok d := by
  have htree : Json.ofOctets? response.body = some (.obj fields) := by
    rw [hbody, Json.ofOctets?_encode_write hfits]
  have hopened : Outcome path url ⟨some response, none⟩ (.ok ((fields.get? "datas").getD .null)) :=
    .opened hstatus htree (.integer (.intro hresponse hfield) hcode)
  rw [hdatas] at hopened
  exact datas_of_outcome hopened (not_escapes_of_body hstatus htree hresponse hmessage)

/-- A message that is read but nests too deep for its text keeps its envelope from being opened, even
with the code of success. -/
theorem datas_of_written_nested {response : Response} {code : Int} {n : Nat} {e : Encoding}
    (path url : Text) (hstatus : response.statusCode < 400)
    (hbody : response.body = e.encode (Json.write .ascii
      (.obj [("response", .obj [("code", .int code), ("message", Json.nested n)])])))
    (hcode : HasText code) (hdeep : Machine.messageLimit < n) (hread : n + 2 ≤ Machine.bodyLimit) :
    datas path url ⟨some response, none⟩ = .error (.escape .nesting) := by
  have hkeys : ([Text.ofString "code", "message"] : List Text).Nodup := by decide
  have hunpaired : ∀ key ∈ [Text.ofString "response", "code", "message"], key.IsUnpaired := by decide
  simp only [List.forall_mem_cons] at hunpaired
  obtain ⟨houter, hcodeKey, hmessageKey, -⟩ := hunpaired
  have hresponse : Json.Fits Text.IsUnpaired (n + 1)
      (.obj [("code", .int code), ("message", Json.nested n)]) := by
    refine .obj hkeys ?_ ?_ <;> simp only [List.forall_mem_cons]
    · exact ⟨hcodeKey, hmessageKey, nofun⟩
    · exact ⟨.int hcode, Json.fits_nested n, nofun⟩
  have hfits : Json.Fits Text.IsUnpaired (n + 2)
      (.obj [("response", .obj [("code", .int code), ("message", Json.nested n)])]) := by
    refine .obj (by simp) ?_ ?_ <;> simp only [List.forall_mem_singleton]
    · exact houter
    · exact hresponse
  have htree := Json.ofOctets?_encode_write (hfits.mono hread) e
  rw [← hbody] at htree
  refine datas_of_escapes (.message hstatus htree (.intro rfl rfl) ?_) path url
  rwa [Json.depth_nested]

example : Machine.usual.messageLimit < 989 ∧ 989 + 2 ≤ Machine.usual.bodyLimit := by decide

end

attribute [local instance] Machine.usual

theorem datas_of_written_surrogates :
    datas "/n" "u" ⟨some ⟨399, (Encoding.utf16 false).encode (Json.write .ascii (.obj
        [("datas", .arr [.str [CodePoint.ofNat 0xDC00, CodePoint.ofNat 0xD800], .float .zero, .int 0]),
          ("response", .obj [("message", .null), ("code", .int 200)])])), "u"⟩, none⟩ =
      .ok (.arr [.str [CodePoint.ofNat 0xDC00, CodePoint.ofNat 0xD800], .float .zero, .int 0]) := by
  have hdatas : Json.Fits Text.IsUnpaired 1
      (.arr [.str [CodePoint.ofNat 0xDC00, CodePoint.ofNat 0xD800], .float .zero, .int 0]) := by
    refine .arr ?_
    simp only [List.forall_mem_cons]
    exact ⟨.str (by decide), .float _, .int (by decide), nofun⟩
  have hresponse : Json.Fits Text.IsUnpaired 1 (.obj [("message", .null), ("code", .int 200)]) := by
    refine .obj (by decide) (by decide) ?_
    simp only [List.forall_mem_cons]
    exact ⟨.null, .int (by decide), nofun⟩
  have hfits : Json.Fits Text.IsUnpaired 2 (.obj
      [("datas", .arr [.str [CodePoint.ofNat 0xDC00, CodePoint.ofNat 0xD800], .float .zero, .int 0]),
        ("response", .obj [("message", .null), ("code", .int 200)])]) := by
    refine .obj (by decide) (by decide) ?_
    simp only [List.forall_mem_cons]
    exact ⟨hdatas, hresponse, nofun⟩
  have hmessage (v : Json) (h : some Json.null = some v) : v.depth ≤ Machine.messageLimit := by
    cases h
    exact Nat.zero_le _
  exact datas_of_written "/n" "u" (by decide) rfl (hfits.mono (by decide)) rfl hmessage rfl (.int 200)
    rfl

end Delivery

end NodePanel
