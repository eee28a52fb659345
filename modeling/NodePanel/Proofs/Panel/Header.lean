import NodePanel.Panel.Projection
import NodePanel.Proofs.Json.Compact
import NodePanel.Proofs.Json.Limits

/-!
The header block of a node. It is kept as JSON text, which says no more and no less than the block
did, and stays apart from a header that is not there.
-/
namespace NodePanel

namespace NodeInfo

def headerKey : Text := "header"

theorem headerText_eq_none_iff {datas : Json} :
    headerText datas = none ↔
      ¬ ∃ fields : Json.Fields, datas = .obj fields ∧ headerKey ∈ fields.map (·.1) := by
  have hnone : headerText datas = none ↔ datas.get? headerKey = none := Option.map_eq_none_iff
  rw [hnone, not_exists]
  cases datas with
  | obj fields =>
    refine List.lookup_eq_none_iff.trans ⟨?_, fun h f hf => ?_⟩
    · rintro h _ ⟨⟨⟩, hmem⟩
      obtain ⟨f, hf, hkey⟩ := List.mem_map.1 hmem
      exact bne_iff_ne.1 (h f hf) hkey.symm
    · exact bne_iff_ne.2 fun hkey => h fields ⟨rfl, hkey ▸ List.mem_map_of_mem hf⟩
  | _ => exact iff_of_true rfl fun _ h => nomatch h.1

private theorem exists_of_headerText {datas : Json} {t : Text} (h : headerText datas = some t) :
    ∃ (fields : Json.Fields) (v : Json), datas = .obj fields ∧ fields.get? headerKey = some v ∧
      v.write .compact = t := by
  obtain ⟨v, hv, rfl⟩ := Option.map_eq_some_iff.1 h
  cases datas with
  | obj fields => exact ⟨fields, v, rfl, hv, rfl⟩
  | _ => contradiction

/-- The header of a node is there if the data have one, and then it is text of one line without
needless blanks from which the header of the data is read. -/
theorem header_ofDatas [Machine] {source : Text} {datas : Json} (h : Json.ofText? source = some datas)
    (nodeType : Text) (nodeId : Int) (enableVless : Bool) :
    ((ofDatas datas nodeType nodeId enableVless).header = none ↔
        ¬ ∃ fields : Json.Fields, datas = .obj fields ∧ headerKey ∈ fields.map (·.1)) ∧
      ∀ t, (ofDatas datas nodeType nodeId enableVless).header = some t →
        ∃ (fields : Json.Fields) (v : Json), datas = .obj fields ∧
          fields.get? headerKey = some v ∧ Json.ofText? t = some v ∧ (∀ c ∈ t, 0x20 ≤ c.val) ∧
          ∀ c ∈ Json.outsideLiterals t, c.isBlank = false := by
  refine ⟨headerText_eq_none_iff, fun t ht => ?_⟩
  obtain ⟨fields, v, rfl, hv, rfl⟩ := exists_of_headerText ht
  have hfits := (Json.fitsLimits_of_ofText? h).get? hv
  have hcompact := Json.isCompact_write v
  exact ⟨fields, v, rfl, hv, Json.ofText?_write_compact hfits, hcompact.visible,
    hcompact.not_isBlank⟩

attribute [local instance] Machine.usual

theorem header_ofDatas_of_spaced :
    Json.ofText? "\x7b\"header\": [null, \"a b\\n\"], \"port\": true\x7d" =
        some (.obj [(headerKey, .arr [.null, .str "a b\n"]), ("port", .bool true)]) ∧
      ∃ t, (ofDatas (.obj [(headerKey, .arr [.null, .str "a b\n"]), ("port", .bool true)]) "V2ray" 1
          false).header = some t ∧
        Json.ofText? t = some (.arr [.null, .str "a b\n"]) := by
  have hread : Json.ofText? "\x7b\"header\": [null, \"a b\\n\"], \"port\": true\x7d" =
      some (.obj [(headerKey, .arr [.null, .str "a b\n"]), ("port", .bool true)]) := rfl
  obtain ⟨_, v, ⟨⟩, hv, htext, -⟩ := (header_ofDatas hread "V2ray" 1 false).2 _ rfl
  cases hv
  exact ⟨hread, _, rfl, htext⟩

end NodeInfo

end NodePanel
