import Mathlib.Data.List.Nodup
import NodePanel.Proofs.Panel.Lenient

/-!
The fields of a node, each with the key under which the panel sends it. No two have one key, so a
change under a key shows in one field at most, and a value that is not of the kind of its field is
worth as much as none.
-/
namespace NodePanel

def Lenient.Kind.written : Kind (Option Text) where
  IsA v t := t = some (v.write .compact)
  zero := none
  read := Option.map (Json.write .compact)
  read_value h := h.symm
  read_other h := absurd rfl (h _)
  read_absent := rfl

namespace NodeInfo

open Lenient (Kind)

inductive Field where
  | port
  | alterId
  | transportProtocol
  | enableTls
  | tlsType
  | path
  | host
  | serviceName
  | header
  | speedLimit
deriving DecidableEq

namespace Field

def all : List Field :=
  [port, alterId, transportProtocol, enableTls, tlsType, path, host, serviceName, header, speedLimit]

def key : Field → Text
  | port => "port"
  | alterId => "alter_id"
  | transportProtocol => "transport_protocol"
  | enableTls => "enable_tls"
  | tlsType => "tls_type"
  | path => "path"
  | host => "host"
  | serviceName => "service_name"
  | header => "header"
  | speedLimit => "speed_limit"

abbrev Value : Field → Type
  | port | alterId => Int
  | transportProtocol | tlsType | path | host | serviceName => Text
  | enableTls => Bool
  | header => Option Text
  | speedLimit => Nat

def kind : (f : Field) → Kind f.Value
  | port | alterId => .integer
  | transportProtocol | tlsType | path | host | serviceName => .text
  | enableTls => .bool
  | header => .written
  | speedLimit => .limit

def get : (f : Field) → NodeInfo → f.Value
  | port, n => n.port
  | alterId, n => n.alterId
  | transportProtocol, n => n.transportProtocol
  | enableTls, n => n.enableTls
  | tlsType, n => n.tlsType
  | path, n => n.path
  | host, n => n.host
  | serviceName, n => n.serviceName
  | header, n => n.header
  | speedLimit, n => n.speedLimit

/-- The JSON value that a field comes from; for the header this is a block of any form. -/
def json (n : NodeInfo) (block : Option Json) : Field → Option Json
  | port => some (.int n.port)
  | alterId => some (.int n.alterId)
  | transportProtocol => some (.str n.transportProtocol)
  | enableTls => some (.bool n.enableTls)
  | tlsType => some (.str n.tlsType)
  | path => some (.str n.path)
  | host => some (.str n.host)
  | serviceName => some (.str n.serviceName)
  | header => block
  | speedLimit => some (.int n.speedLimit)

theorem mem_all (f : Field) : f ∈ all := by
  cases f <;> decide

theorem nodup_keys : (all.map key).Nodup := by decide

theorem eq_of_key_eq {f g : Field} (h : f.key = g.key) : f = g :=
  List.inj_on_of_nodup_map nodup_keys (mem_all f) (mem_all g) h

@[simp] theorem get_ofDatas (f : Field) (datas : Json) (nodeType : Text) (nodeId : Int)
    (enableVless : Bool) :
    f.get (ofDatas datas nodeType nodeId enableVless) = f.kind.read (datas.get? f.key) := by
  cases f <;> rfl

@[simp] theorem read_json (f : Field) (n : NodeInfo) (block : Option Json) :
    f.kind.read (f.json n block) =
      f.get { n with header := block.map (Json.write .compact) } := by
  cases f <;> rfl

end Field

variable {a b c n : NodeInfo} {fields : Json.Fields} {key : Text} {x y v : Json}
variable (nodeType : Text) (nodeId : Int) (enableVless : Bool)

/-- The node of a session by the fields of the object that the panel sends. -/
abbrev ofFields (fields : Json.Fields) : NodeInfo :=
  ofDatas (.obj fields) nodeType nodeId enableVless

/-- Nodes of one session that differ at most in the field that is read under `key`. -/
structure AgreeBut (key : Text) (a b : NodeInfo) : Prop where
  nodeType : a.nodeType = b.nodeType
  nodeId : a.nodeId = b.nodeId
  enableVless : a.enableVless = b.enableVless
  field (f : Field) (h : f.key ≠ key) : f.get a = f.get b

structure IsMadeOf (fields : Json.Fields) (n : NodeInfo) : Prop where
  nodeType : n.nodeType = nodeType
  nodeId : n.nodeId = nodeId
  enableVless : n.enableVless = enableVless
  field (f : Field) : f.kind.Reads (.obj fields) f.key (f.get n)
  checked : NodeInfo.ofJson n.toJson = .ok n

theorem eq_of_get (hsession : a.nodeType = b.nodeType ∧ a.nodeId = b.nodeId ∧
    a.enableVless = b.enableVless) (h : ∀ f : Field, f.get a = f.get b) : a = b := by
  obtain ⟨htype, hid, hvless⟩ := hsession
  cases a
  cases b
  congr
  exacts [h .port, h .alterId, h .transportProtocol, h .enableTls, h .tlsType, h .path, h .host,
    h .serviceName, h .header, h .speedLimit]

theorem AgreeBut.eq (h : AgreeBut key a b) (hget : ∀ f : Field, f.key = key → f.get a = f.get b) :
    a = b := by
  apply eq_of_get ⟨h.nodeType, h.nodeId, h.enableVless⟩
  intro f
  by_cases hkey : f.key = key
  · exact hget f hkey
  · exact h.field f hkey

theorem AgreeBut.symm (h : AgreeBut key a b) : AgreeBut key b a :=
  ⟨h.nodeType.symm, h.nodeId.symm, h.enableVless.symm, fun f hf => (h.field f hf).symm⟩

theorem AgreeBut.trans (hab : AgreeBut key a b) (hbc : AgreeBut key b c) : AgreeBut key a c :=
  ⟨hab.nodeType.trans hbc.nodeType, hab.nodeId.trans hbc.nodeId,
    hab.enableVless.trans hbc.enableVless, fun f hf => (hab.field f hf).trans (hbc.field f hf)⟩

theorem agreeBut_ofDatas (h : ∀ other, other ≠ key → x.get? other = y.get? other) :
    AgreeBut key (ofDatas x nodeType nodeId enableVless)
      (ofDatas y nodeType nodeId enableVless) where
  nodeType := rfl
  nodeId := rfl
  enableVless := rfl
  field f hkey := by rw [f.get_ofDatas, f.get_ofDatas, h f.key hkey]

theorem ofJson_toJson (n : NodeInfo) : NodeInfo.ofJson n.toJson = .ok n := by
  cases n with
  | mk _ _ _ _ _ _ _ _ _ _ header => cases header <;> rfl

private theorem isMadeOf_ofDatas (fields : Json.Fields) :
    IsMadeOf nodeType nodeId enableVless fields (ofFields nodeType nodeId enableVless fields) where
  nodeType := rfl
  nodeId := rfl
  enableVless := rfl
  field f := Kind.reads_iff.2 (f.get_ofDatas _ _ _ _).symm
  checked := ofJson_toJson _

/-! Changes under one key -/

theorem agreeBut_put (fields : Json.Fields) (key : Text) (v : Json) :
    AgreeBut key (ofFields nodeType nodeId enableVless (Keyed.put fields key v))
      (ofFields nodeType nodeId enableVless fields) := by
  apply agreeBut_ofDatas
  intro other hother
  exact Keyed.get?_put.trans (if_neg hother)

theorem agreeBut_erase (fields : Json.Fields) (key : Text) :
    AgreeBut key (ofFields nodeType nodeId enableVless (Keyed.erase fields key))
      (ofFields nodeType nodeId enableVless fields) := by
  apply agreeBut_ofDatas
  intro other hother
  exact Keyed.get?_erase.trans (if_neg hother)

@[simp] theorem get_put (f : Field) (fields : Json.Fields) (v : Json) :
    f.get (ofFields nodeType nodeId enableVless (Keyed.put fields f.key v)) =
      f.kind.read (some v) := by
  rw [f.get_ofDatas]
  exact congrArg f.kind.read (Keyed.get?_put.trans (if_pos rfl))

@[simp] theorem get_erase (f : Field) (fields : Json.Fields) :
    f.get (ofFields nodeType nodeId enableVless (Keyed.erase fields f.key)) = f.kind.zero := by
  rw [f.get_ofDatas, ← f.kind.read_absent]
  exact congrArg f.kind.read (Keyed.get?_erase.trans (if_pos rfl))

private theorem ofFields_put_of_other {f : Field} (h : ∀ a, ¬ f.kind.IsA v a)
    (fields : Json.Fields) :
    ofFields nodeType nodeId enableVless (Keyed.put fields f.key v) =
      ofFields nodeType nodeId enableVless (Keyed.erase fields f.key) := by
  apply ((agreeBut_put nodeType nodeId enableVless fields f.key v).trans
    (agreeBut_erase nodeType nodeId enableVless fields f.key).symm).eq
  intro g hg
  obtain rfl := Field.eq_of_key_eq hg
  rw [get_put, get_erase, g.kind.read_other h]

/-! Data that hold the fields of a node -/

/-- The fields of a node as the panel sends them, with a header block or without. -/
def panelFields (n : NodeInfo) (block : Option Json) : Json.Fields :=
  Field.all.filterMap fun f => (f.json n block).map (f.key, ·)

@[simp] theorem mem_panelFields {f : Field} {block : Option Json} :
    (f.key, v) ∈ panelFields n block ↔ f.json n block = some v := by
  unfold panelFields
  rw [List.mem_filterMap]
  constructor
  · rintro ⟨g, -, hg⟩
    obtain ⟨w, hw, heq⟩ := Option.map_eq_some_iff.1 hg
    obtain ⟨hkey, rfl⟩ := Prod.mk.inj heq
    rwa [← Field.eq_of_key_eq hkey]
  · intro h
    exact ⟨f, f.mem_all, by rw [h, Option.map_some]⟩

private theorem nodup_panelFields (n : NodeInfo) (block : Option Json) :
    (Keyed.keys (panelFields n block)).Nodup := by
  unfold Keyed.keys panelFields
  rw [List.map_filterMap]
  apply List.Nodup.filterMap
  · intro f g key hf hg
    simp only [Option.map_map, Option.mem_def, Option.map_eq_some_iff] at hf hg
    obtain ⟨v, -, rfl⟩ := hf
    obtain ⟨w, -, hkey⟩ := hg
    exact Field.eq_of_key_eq hkey.symm
  · decide

private theorem get?_of_perm {block : Option Json} (h : fields.Perm (panelFields n block))
    (f : Field) :
    fields.get? f.key = f.json n block := by
  have hnodup : (Keyed.keys fields).Nodup :=
    (h.map Prod.fst).nodup_iff.2 (nodup_panelFields n block)
  ext v
  refine (Keyed.get?_eq_some_iff hnodup).trans ?_
  rw [h.mem_iff, mem_panelFields]

private theorem ofDatas_of_perm {block : Option Json} (h : fields.Perm (panelFields n block)) :
    ofDatas (.obj fields) n.nodeType n.nodeId n.enableVless =
      { n with header := block.map (Json.write .compact) } := by
  refine eq_of_get ⟨rfl, rfl, rfl⟩ fun f => ?_
  rw [f.get_ofDatas, ← f.read_json]
  exact congrArg f.kind.read (get?_of_perm h f)

/-! All fields -/

/-- What the panel sends under a key shows in the one field that has this key, and is worth nothing
there if it is not of the kind of the field; type, number and `enableVless` are those of the
session, and the data that hold the fields of a node are read as these fields. -/
theorem fields_of_changed_datas (fields : Json.Fields) (key : Text) (v : Json) :
    (∀ sent, IsMadeOf nodeType nodeId enableVless sent
        (ofFields nodeType nodeId enableVless sent)) ∧
      AgreeBut key (ofFields nodeType nodeId enableVless (Keyed.put fields key v))
        (ofFields nodeType nodeId enableVless fields) ∧
      AgreeBut key (ofFields nodeType nodeId enableVless (Keyed.erase fields key))
        (ofFields nodeType nodeId enableVless fields) ∧
      ((∀ f : Field, f.key ≠ key) →
        ofFields nodeType nodeId enableVless (Keyed.put fields key v) =
            ofFields nodeType nodeId enableVless fields ∧
          ofFields nodeType nodeId enableVless (Keyed.erase fields key) =
            ofFields nodeType nodeId enableVless fields) ∧
      (∀ f : Field, f.key = key → (∀ g : Field, g.key = key → g = f) ∧
        f.get (ofFields nodeType nodeId enableVless (Keyed.erase fields key)) = f.kind.zero ∧
        (∀ a, f.kind.IsA v a →
          f.get (ofFields nodeType nodeId enableVless (Keyed.put fields key v)) = a) ∧
        ((∀ a, ¬ f.kind.IsA v a) →
          ofFields nodeType nodeId enableVless (Keyed.put fields key v) =
            ofFields nodeType nodeId enableVless (Keyed.erase fields key))) ∧
      ∀ (n : NodeInfo) (block : Option Json) (sent : Json.Fields),
        sent.Perm (panelFields n block) →
          ofFields n.nodeType n.nodeId n.enableVless sent =
            { n with header := block.map (Json.write .compact) } := by
  have hput := agreeBut_put nodeType nodeId enableVless fields key v
  have herase := agreeBut_erase nodeType nodeId enableVless fields key
  refine ⟨isMadeOf_ofDatas nodeType nodeId enableVless, hput, herase, fun hnone => ?_, ?_,
    fun n block sent hsent => ofDatas_of_perm hsent⟩
  · exact ⟨hput.eq fun f hf => absurd hf (hnone f), herase.eq fun f hf => absurd hf (hnone f)⟩
  · rintro f rfl
    refine ⟨fun g hg => Field.eq_of_key_eq hg, get_erase _ _ _ f fields, fun a ha => ?_,
      fun hother => ofFields_put_of_other _ _ _ hother fields⟩
    rw [get_put, f.kind.read_value ha]

/-- Data with a field of the node, one of the session and a limit below zero. -/
def mixedFields : Json.Fields :=
  [("port", .int 443), ("enable_vless", .bool false), ("speed_limit", .int (-1))]

theorem fields_of_misread_port :
    (∀ a, ¬ Field.port.kind.IsA (.str "443") a) ∧
      ofFields "V2ray" 1 true (Keyed.put mixedFields "port" (.str "443")) =
        ofFields "V2ray" 1 true (Keyed.erase mixedFields "port") ∧
      (ofFields "V2ray" 1 true (Keyed.erase mixedFields "port")).port = 0 ∧
      (∀ f : Field, f.key ≠ "enable_vless") ∧
      ofFields "V2ray" 1 true (Keyed.put mixedFields "enable_vless" (.str "443")) =
        ofFields "V2ray" 1 true mixedFields ∧
      ofFields "V2ray" 1 true (panelFields (ofFields "V2ray" 1 true mixedFields) none) =
        ofFields "V2ray" 1 true mixedFields := by
  have htext (a : Int) : ¬ Field.port.kind.IsA (.str "443") a := nofun
  have hvless (f : Field) : f.key ≠ "enable_vless" := by cases f <;> decide
  obtain ⟨-, -, -, -, hport, hnode⟩ :=
    fields_of_changed_datas "V2ray" 1 true mixedFields "port" (.str "443")
  obtain ⟨-, -, -, hother, -⟩ :=
    fields_of_changed_datas "V2ray" 1 true mixedFields "enable_vless" (.str "443")
  obtain ⟨-, hzero, -, herase⟩ := hport .port rfl
  exact ⟨htext, herase htext, hzero, hvless, (hother hvless).1, hnode _ none _ (.refl _)⟩

end NodeInfo

end NodePanel
