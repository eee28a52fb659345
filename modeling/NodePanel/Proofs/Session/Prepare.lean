import NodePanel.Proofs.Http.Base
import NodePanel.Proofs.Json.Lexemes
import NodePanel.Proofs.Result
import NodePanel.Proofs.Session.Operation

/-!
Requests of operations on the wire. With a plain address and a key in ASCII there is a client, and
it can put the request of every operation on the wire whose records can be written, as long as no
part of its address is too long.
-/
namespace NodePanel

/-! Bodies that can be written -/

namespace Json

theorem faultInItems?_eq_none_iff {items : List Json} :
    faultInItems? items = none ↔ ∀ v ∈ items, v.numberFault? = none := by
  induction items with
  | nil => exact iff_of_true rfl nofun
  | cons v items ih =>
    rw [List.forall_mem_cons, ← ih, faultInItems?]
    cases v.numberFault? <;> simp

theorem faultInFields?_eq_none_iff {fields : Fields} :
    faultInFields? fields = none ↔ ∀ f ∈ fields, f.2.numberFault? = none := by
  induction fields with
  | nil => exact iff_of_true rfl nofun
  | cons f fields ih =>
    rw [List.forall_mem_cons, ← ih, faultInFields?]
    cases f.2.numberFault? <;> simp

theorem numberFault?_int {n : Int} (h : HasText n) : (int n).numberFault? = none := if_pos h

theorem numberFault?_float {x : Binary64} (h : x.isFinite = true) :
    (float x).numberFault? = none :=
  if_pos h

theorem numberFault?_arr_map {α : Type} {toJson : α → Json} {records : List α}
    (h : ∀ a ∈ records, (toJson a).numberFault? = none) :
    (arr (records.map toJson)).numberFault? = none :=
  faultInItems?_eq_none_iff.2 (List.forall_mem_map.2 h)

theorem hasStrings_arr_map {α : Type} {q : Text → Prop} {toJson : α → Json} {records : List α}
    (h : ∀ a ∈ records, (toJson a).HasStrings q) : (arr (records.map toJson)).HasStrings q :=
  .arr (List.forall_mem_map.2 h)

theorem hasStrings_record {fields : Fields} (names : List Text) (hnames : fields.map (·.1) = names)
    (hkeys : ∀ name ∈ names, Utf8.IsScalar name)
    (h : ∀ f ∈ fields, HasStrings Utf8.IsScalar f.2) : HasStrings Utf8.IsScalar (.obj fields) := by
  subst hnames
  exact .obj (fun f hf => hkeys f.1 (List.mem_map_of_mem hf)) h

end Json

namespace Operation

/-- The records of a report can be written: their integers are not too long, their other numbers are
finite, and their texts have no surrogates. -/
def IsSendable : Operation → Prop
  | .reportStatus s =>
    s.cpu.isFinite = true ∧ s.mem.isFinite = true ∧ s.disk.isFinite = true ∧ HasText s.uptime
  | .reportOnline users => ∀ u ∈ users, HasText u.uid ∧ Utf8.IsScalar u.ip
  | .reportTraffic traffic => ∀ t ∈ traffic,
    HasText t.uid ∧ Utf8.IsScalar t.email ∧ HasText t.upload ∧ HasText t.download
  | .reportIllegal hits => ∀ hit ∈ hits, HasText hit.uid ∧ HasText hit.ruleId
  | _ => True

instance : DecidablePred IsSendable := fun operation => by
  cases operation <;> unfold IsSendable <;> infer_instance

variable {operation : Operation}

private theorem numberFault?_body (h : operation.IsSendable) :
    operation.body.numberFault? = none := by
  cases operation with
  | reportStatus s =>
    obtain ⟨hcpu, hmem, hdisk, huptime⟩ := h
    refine Json.faultInFields?_eq_none_iff.2 ?_
    simp only [List.forall_mem_cons]
    exact ⟨Json.numberFault?_float hcpu, Json.numberFault?_float hmem, Json.numberFault?_float hdisk,
      Json.numberFault?_int huptime, List.forall_mem_nil _⟩
  | reportOnline users =>
    refine Json.numberFault?_arr_map fun u hu => Json.faultInFields?_eq_none_iff.2 ?_
    simp only [List.forall_mem_cons]
    exact ⟨Json.numberFault?_int (h u hu).1, rfl, List.forall_mem_nil _⟩
  | reportTraffic traffic =>
    refine Json.numberFault?_arr_map fun t ht => Json.faultInFields?_eq_none_iff.2 ?_
    obtain ⟨huid, -, hupload, hdownload⟩ := h t ht
    simp only [List.forall_mem_cons]
    exact ⟨Json.numberFault?_int huid, rfl, Json.numberFault?_int hupload,
      Json.numberFault?_int hdownload, List.forall_mem_nil _⟩
  | reportIllegal hits =>
    refine Json.numberFault?_arr_map fun hit hhit => Json.faultInFields?_eq_none_iff.2 ?_
    simp only [List.forall_mem_cons]
    exact ⟨Json.numberFault?_int (h hit hhit).2, Json.numberFault?_int (h hit hhit).1,
      List.forall_mem_nil _⟩
  | _ => rfl

private theorem hasStrings_body (h : operation.IsSendable) :
    operation.body.HasStrings Utf8.IsScalar := by
  cases operation with
  | reportStatus s =>
    refine Json.hasStrings_record ["CPU", "Mem", "Disk", "Uptime"] rfl (by decide) ?_
    simp only [List.forall_mem_cons]
    exact ⟨.float _, .float _, .float _, .int _, List.forall_mem_nil _⟩
  | reportOnline users =>
    refine Json.hasStrings_arr_map fun u hu => ?_
    refine Json.hasStrings_record ["UID", "IP"] rfl (by decide) ?_
    simp only [List.forall_mem_cons]
    exact ⟨.int _, .str (h u hu).2, List.forall_mem_nil _⟩
  | reportTraffic traffic =>
    refine Json.hasStrings_arr_map fun t ht => ?_
    refine Json.hasStrings_record ["UID", "Email", "Upload", "Download"] rfl (by decide) ?_
    simp only [List.forall_mem_cons]
    exact ⟨.int _, .str (h t ht).2.1, .int _, .int _, List.forall_mem_nil _⟩
  | reportIllegal hits =>
    refine Json.hasStrings_arr_map fun hit _ => ?_
    refine Json.hasStrings_record ["id", "uid"] rfl (by decide) ?_
    simp only [List.forall_mem_cons]
    exact ⟨.int _, .int _, List.forall_mem_nil _⟩
  | _ => exact .null

private theorem exists_bodyFor (h : operation.IsSendable) :
    ∃ body, HttpClient.bodyFor operation.body = .ok body := by
  have hnumbers := operation.numberFault?_body h
  have hscalar := Json.isScalar_write (operation.hasStrings_body h)
  unfold HttpClient.bodyFor
  split
  next => exact ⟨none, rfl⟩
  next =>
    rw [hnumbers, Utf8.encode_eq_ok hscalar]
    exact ⟨_, rfl⟩

private theorem query_eq_or (nodeId : Int) (operation : Operation) :
    operation.query nodeId = [] ∨
      operation.query nodeId = [(Text.ofString "node_id", Text.ofInt nodeId)] := by
  unfold query
  split
  · exact .inr rfl
  · exact .inl rfl

end Operation

namespace HttpClient

open Url

theorem textFault?_eq_none_iff {t : Text} :
    Headers.textFault? t = none ↔ ∀ c ∈ t, c.isAscii = true :=
  Utf8.find?_eq_none_iff.trans (by simp [Headers.isForeign])

private theorem checkHost_eq {url : Url} (h : url.IsRead) : checkHost url = .ok () := by
  have hname : HostName.checkWire url.host = .ok () := by
    have hlower := h.isPlainHost.isName
    rwa [h.asciiLower_host] at hlower
  have hauthority : url.hostAndPort = url.authority := by
    simp [authority, h.userinfo_eq]
  have hascii : Headers.textFault? url.hostAndPort = none := by
    refine textFault?_eq_none_iff.2 fun c hc => ?_
    rw [hauthority] at hc
    have hbounds := bounds_of_isAuthorityPoint (h.isAuthorityPoint_authority c hc)
    exact decide_eq_true (by omega)
  simp [checkHost, hname, hascii, bind, Except.bind, pure, Except.pure]

theorem exists_prepare {client : HttpClient} {path : Text} (h : client.baseUrl.IsBase path)
    {operation : Operation} (hsendable : operation.IsSendable) {nodeId : Int} {r : Request}
    (hr : operation.request nodeId = .ok r)
    (hlength : (requestPath path operation.endpoint).length ≤ limit)
    (hquery : (nodeText nodeId).length ≤ limit) :
    ∃ wire, client.prepare r = .ok wire ∧ wire.url.hasType = true ∧
      wire.url.path = requestPath path operation.endpoint ∧
      wire.url.query = if r.query.isEmpty then none else some (nodeText nodeId) := by
  obtain ⟨-, hmade⟩ := Operation.request_eq_ok_iff.1 hr
  obtain ⟨hpath, hpairs, hbodyEq⟩ : r.path = operation.endpoint.path ∧
      r.query = operation.query nodeId ∧ r.body = operation.body := by
    rw [← hmade]; exact ⟨rfl, rfl, rfl⟩
  have hor := operation.query_eq_or nodeId
  rw [← hpairs] at hor
  obtain ⟨url, hurl, hread, hplace⟩ := exists_urlFor h hpath hlength hor hquery
  obtain ⟨body, hbody⟩ := operation.exists_bodyFor hsendable
  rw [← hbodyEq] at hbody
  refine ⟨⟨r.method, url, client.headers, body.map fun _ => jsonType, body.getD [],
    client.retries⟩, ?_, hread.hasType, hplace⟩
  simp [prepare, hurl, hbody, checkHost_eq hread, bind, Except.bind, pure, Except.pure]

theorem prepare_of_long {client : HttpClient} {path : Text} (h : client.baseUrl.IsBase path)
    {e : Endpoint} {r : Request} (hpath : r.path = e.path)
    (hlength : limit < (requestPath path e).length) :
    client.prepare r = .error (WireError.partTooLong .path).toSendError := by
  have hurl := urlFor_of_long h hpath hlength
  simp [prepare, hurl, bind, Except.bind]

theorem fault?_eq_none_iff {headers : Headers} : headers.fault? = none ↔
    ∀ e ∈ headers, (∀ c ∈ e.1, c.isAscii = true) ∧ ∀ c ∈ e.2, c.isAscii = true := by
  simp only [Headers.fault?, List.findSome?_eq_none_iff, Option.or_eq_none_iff,
    textFault?_eq_none_iff]

def ownHeaders (key : Text) : Headers := [(keyHeader, key), (acceptHeader, jsonType)]

theorem fault?_ownHeaders_eq_none_iff {key : Text} :
    (ownHeaders key).fault? = none ↔ ∀ c ∈ key, c.isAscii = true := by
  have hname : ∀ c ∈ keyHeader, c.isAscii = true := by decide
  have haccept : ∀ c ∈ acceptHeader, c.isAscii = true := by decide
  have hjson : ∀ c ∈ jsonType, c.isAscii = true := by decide
  simp only [fault?_eq_none_iff, ownHeaders, List.forall_mem_cons]
  exact ⟨fun h => h.1.2, fun h => ⟨⟨hname, h⟩, ⟨haccept, hjson⟩, List.forall_mem_nil _⟩⟩

theorem create_eq_ok_iff {settings : Settings} {extra : Headers} {client : HttpClient} :
    create settings extra = .ok client ↔
      ∃ url base, ofText settings.apiHost = .ok url ∧ url.asBase = .ok base ∧
        (headersFor settings.key extra).fault? = none ∧
        client = ⟨base, headersFor settings.key extra, settings.timeoutSeconds,
          settings.retryCount⟩ := by
  unfold create
  rw [Result.bind_eq_ok_iff]
  refine exists_congr fun url => ?_
  rw [Result.bind_eq_ok_iff, ← exists_and_left]
  refine exists_congr fun base => and_congr_right fun _ => and_congr_right fun _ => ?_
  dsimp only
  cases (headersFor settings.key extra).fault? with
  | some fault => exact iff_of_false nofun fun h => nomatch h.1
  | none => exact ⟨fun h => ⟨rfl, (Except.ok.inj h).symm⟩, fun h => congrArg _ h.2.symm⟩

theorem create_node (settings : Settings) (n : Nat) :
    create { settings with nodeId := n } [] = create settings [] :=
  rfl

theorem create_of_base {settings : Settings} {url base : Url}
    (hurl : ofText settings.apiHost = .ok url) (hbase : url.asBase = .ok base)
    (hkey : ∀ c ∈ settings.key, c.isAscii = true) :
    create settings [] = .ok ⟨base, headersFor settings.key [], settings.timeoutSeconds,
      settings.retryCount⟩ :=
  create_eq_ok_iff.2 ⟨url, base, hurl, hbase, fault?_ownHeaders_eq_none_iff.2 hkey, rfl⟩

theorem exists_create {settings : Settings} {u : Url} (h : u.IsPlain) (hquery : u.query = none)
    (hhost : settings.apiHost = u.toText) (hkey : ∀ c ∈ settings.key, c.isAscii = true)
    (hlength : u.toText.length ≤ limit)
    (hbase : (basePath (normalizePath u.path)).length ≤ limit) :
    ∃ client, create settings [] = .ok client ∧ client.baseUrl.IsBase (normalizePath u.path) := by
  obtain ⟨hnormal, hrooted, hsubset⟩ := normalizePath_rooted h.isRooted
  obtain ⟨v, hv, hread, hvpath, hvquery⟩ := h.exists_ofText hquery hlength
  rw [← hvpath] at hnormal hrooted hsubset hbase ⊢
  obtain ⟨base, hbaseUrl, hbaseRead, hbaseQuery, htarget⟩ := hread.exists_asBase hvquery hnormal hbase
  exact ⟨_, create_of_base (by rw [hhost, hv]) hbaseUrl hkey,
    { hbaseRead with
      query_eq := hbaseQuery
      target_eq := htarget
      isRooted_path := hrooted
      isNormal_path := hnormal
      isPathPoint_path := hread.isPathPoint }⟩

theorem length_le_of_create {settings : Settings} {client : HttpClient}
    (h : create settings [] = .ok client) : settings.apiHost.length ≤ limit := by
  obtain ⟨url, -, hurl, -⟩ := create_eq_ok_iff.1 h
  unfold ofText at hurl
  split at hurl
  next => contradiction
  next hshort =>
    simp only [Bool.or_eq_true, decide_eq_true_eq, not_or, Nat.not_lt] at hshort
    exact hshort.1

end HttpClient

end NodePanel
