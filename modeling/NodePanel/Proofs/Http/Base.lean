import NodePanel.Http.Client
import NodePanel.Panel.Endpoint
import NodePanel.Proofs.Encoding.Utf8
import NodePanel.Proofs.Http.Address

/-!
Addresses below that of a panel. The path of an endpoint is appended to a base, which is a plain
address with a slash at its end; that gives a plain address unless the path gets too long.
-/
namespace NodePanel

namespace Url

/-- A path with a slash at its end, so that others can be appended to it. -/
def basePath (path : Text) : Text := if path.getLast? = some slash then path else path ++ [slash]

private theorem exists_basePath_eq (path : Text) : ∃ front, basePath path = front ++ [slash] := by
  unfold basePath
  by_cases h : path.getLast? = some slash
  · rw [if_pos h]
    obtain ⟨front, hfront⟩ := List.getLast?_eq_some_iff.1 h
    exact ⟨front, hfront⟩
  · exact ⟨path, if_neg h⟩

private theorem isNormal_basePath {path : Text} (h : IsNormal path) : IsNormal (basePath path) := by
  unfold basePath
  by_cases hlast : path.getLast? = some slash
  · rwa [if_pos hlast]
  · rw [if_neg hlast]
    exact isNormal_append h (by decide)

theorem isNormal_basePath_append {path rest : Text} (h : IsNormal path) (hrest : IsNormal rest) :
    IsNormal (basePath path ++ rest) := by
  obtain ⟨front, hfront⟩ := exists_basePath_eq path
  have hnormal := isNormal_basePath h
  rw [hfront] at hnormal ⊢
  have hcons : front ++ [slash] ++ rest = front ++ slash :: rest := by simp
  rw [hcons]
  exact isNormal_append (isNormal_of_append hnormal) hrest

private theorem isRooted_basePath_append {path : Text} (h : IsRooted path) (rest : Text) :
    IsRooted (basePath path ++ rest) := by
  unfold basePath
  rcases h with rfl | ⟨tail, rfl⟩
  · exact .inr ⟨rest, rfl⟩
  · split
    · exact .inr ⟨tail ++ rest, rfl⟩
    · exact .inr ⟨tail ++ [slash] ++ rest, rfl⟩

private theorem mem_basePath {path : Text} {c : CodePoint} (h : c ∈ basePath path) :
    c ∈ path ∨ c = slash := by
  unfold basePath at h
  split at h
  · exact .inl h
  · simpa using h

/-- A base at a path: a plain address without a query whose target is that path with a slash at its
end. -/
structure IsBase (u : Url) (path : Text) : Prop extends IsRead u where
  query_eq : u.query = none
  target_eq : u.target = basePath path
  isRooted_path : IsRooted path
  isNormal_path : IsNormal path
  isPathPoint_path : ∀ c ∈ path, Url.isPathPoint c = true

variable {u : Url} {path : Text}

theorem target_eq_of_query (hquery : u.query = none) :
    u.target = if u.path.isEmpty then [slash] else u.path := by
  simp [target, hquery]

theorem IsRead.exists_asBase (h : u.IsRead) (hquery : u.query = none) (hnormal : IsNormal u.path)
    (hlength : (basePath u.path).length ≤ limit) :
    ∃ v, u.asBase = .ok v ∧ v.IsRead ∧ v.query = none ∧ v.target = basePath u.path := by
  have htarget := target_eq_of_query hquery
  rcases h.isRooted with hpath | ⟨rest, hpath⟩
  · have hbase : u.target = basePath u.path := by
      rw [htarget, hpath]
      rfl
    refine ⟨u, if_pos ?_, h, hquery, hbase⟩
    rw [htarget, hpath]
    rfl
  · have hsame : u.target = u.path := by
      rw [htarget, hpath]
      rfl
    by_cases hlast : u.path.getLast? = some slash
    · refine ⟨u, if_pos (by rwa [hsame]), h, hquery, ?_⟩
      rw [hsame, basePath, if_pos hlast]
    · have happend : basePath u.path = u.path ++ [slash] := if_neg hlast
      have hpoints : ∀ c ∈ u.path ++ [slash], Url.isPathPoint c = true := fun c hc =>
        (List.mem_append.1 hc).elim (h.isPathPoint c) fun hslash => by
          rw [List.mem_singleton.1 hslash]
          rfl
      have hrooted : IsRooted (u.path ++ [slash]) := .inr ⟨rest ++ [slash], by rw [hpath]; rfl⟩
      rw [happend] at hlength ⊢
      obtain ⟨v, hv, hread, hvpath, hvquery⟩ :=
        h.exists_withParts hrooted hpoints hlength none nofun (Nat.zero_le limit)
      rw [normalizePath_of_isNormal (isNormal_append hnormal (by decide))] at hvpath
      refine ⟨v, ?_, hread, hvquery, ?_⟩
      · unfold asBase
        rw [hsame, if_neg hlast, withTarget_eq u hpoints, hv]
      · rw [target_eq_of_query hvquery, hvpath]
        simp

theorem endpoint_path (e : Endpoint) :
    e.path = slash :: e.path.drop 1 ∧ (e.path.drop 1).dropWhile isSlash = e.path.drop 1 ∧
      IsNormal (e.path.drop 1) ∧ (∀ c ∈ e.path.drop 1, isPathPoint c = true) ∧
      ofText e.path = .ok ⟨[], [], [], none, e.path, none, none⟩ := by
  cases e <;> decide

def requestPath (path : Text) (e : Endpoint) : Text := basePath path ++ e.path.drop 1

namespace IsBase

theorem isPathPoint_requestPath (h : u.IsBase path) (e : Endpoint) :
    ∀ c ∈ requestPath path e, Url.isPathPoint c = true := by
  obtain ⟨-, -, -, hpoints, -⟩ := endpoint_path e
  intro c hc
  rcases List.mem_append.1 hc with hbase | hrest
  · rcases mem_basePath hbase with hpath | rfl
    · exact h.isPathPoint_path c hpath
    · rfl
  · exact hpoints c hrest

theorem resolve_eq (h : u.IsBase path) (e : Endpoint) :
    u.resolve ⟨[], [], [], none, e.path, none, none⟩ = u.withParts (requestPath path e) none := by
  obtain ⟨hslash, hdrop, -⟩ := endpoint_path e
  have htarget : (Url.mk [] [] [] none e.path none none).target.dropWhile isSlash =
      e.path.drop 1 := by
    rw [target_eq_of_query rfl, hslash]
    simpa [isSlash] using hdrop
  unfold resolve
  rw [htarget, h.target_eq]
  exact withTarget_eq u (h.isPathPoint_requestPath e)

private theorem exists_resolve (h : u.IsBase path) {e : Endpoint}
    (hlength : (requestPath path e).length ≤ limit) :
    ∃ v, u.resolve ⟨[], [], [], none, e.path, none, none⟩ = .ok v ∧ v.IsRead ∧
      v.path = requestPath path e ∧ v.query = none := by
  obtain ⟨-, -, hnormal, -, -⟩ := endpoint_path e
  obtain ⟨v, hv, hread, hvpath, hvquery⟩ := h.exists_withParts
    (isRooted_basePath_append h.isRooted_path _) (h.isPathPoint_requestPath e) hlength
    none nofun (Nat.zero_le limit)
  rw [normalizePath_of_isNormal (isNormal_basePath_append h.isNormal_path hnormal)] at hvpath
  exact ⟨v, (h.resolve_eq e).trans hv, hread, hvpath, hvquery⟩

end IsBase

/-! The query -/

def nodeText (nodeId : Int) : Text := Text.ofString "node_id=" ++ Text.ofInt nodeId

theorem isUnreserved_ofInt (n : Int) : ∀ c ∈ Text.ofInt n, isUnreserved c = true := by
  have hdigits : ∀ c ∈ Text.ofNat n.natAbs, isUnreserved c = true := fun c hc => by
    simp [isUnreserved, Numeral.isDigits_ofNat _ c hc]
  unfold Text.ofInt
  split
  · exact List.forall_mem_cons.2 ⟨rfl, hdigits⟩
  · exact hdigits

theorem formText_of_isUnreserved {t : Text} (h : ∀ c ∈ t, isUnreserved c = true) :
    formText t = .ok t := by
  have hscalar : Utf8.encodeFault? t = none := by
    refine Utf8.find?_eq_none_iff.2 fun c hc => ?_
    have hbounds := bounds_of_isUnreserved (h c hc)
    simp only [CodePoint.isSurrogate, Bool.and_eq_false_iff, decide_eq_false_iff_not]
    omega
  have hpoint (c : CodePoint) (hc : c ∈ t) :
      (if c = CodePoint.ofChar ' ' then [CodePoint.ofChar '+']
        else if isUnreserved c then [c] else percent c) = [c] := by
    have hblank : c ≠ CodePoint.ofChar ' ' := by
      rintro rfl
      exact absurd (h _ hc) (by decide)
    rw [if_neg hblank, if_pos (h c hc)]
  unfold formText
  rw [hscalar]
  show Except.ok (t.flatMap _) = _
  rw [List.flatMap_congr hpoint, List.flatMap_singleton']

@[simp] theorem formQuery_node (nodeId : Int) :
    formQuery [(Text.ofString "node_id", Text.ofInt nodeId)] = .ok (nodeText nodeId) := by
  have hkey : formText (Text.ofString "node_id") = .ok (Text.ofString "node_id") :=
    formText_of_isUnreserved (by decide)
  have hvalue := formText_of_isUnreserved (isUnreserved_ofInt nodeId)
  simp [formQuery, formPair, hkey, hvalue, bind, Except.bind, pure, Except.pure, Text.join]
  rfl

private theorem isQueryPoint_nodeText (nodeId : Int) :
    ∀ c ∈ nodeText nodeId, isQueryPoint c = true := by
  intro c hc
  rcases List.mem_append.1 hc with hname | hnumber
  · have hpoints : ∀ d ∈ Text.ofString "node_id=", isQueryPoint d = true := by decide
    exact hpoints c hname
  · have hbounds := bounds_of_isUnreserved (isUnreserved_ofInt nodeId c hnumber)
    have hmark : isIn "\"#<>" c = false :=
      isIn_eq_false (p := isUnreserved) (by decide) (isUnreserved_ofInt nodeId c hnumber)
    simp [isQueryPoint, visibleExcept, hbounds, hmark]

end Url

namespace HttpClient

open Url

variable {client : HttpClient} {path : Text} {e : Endpoint} {r : Request}

theorem urlFor_of_long (h : client.baseUrl.IsBase path) (hpath : r.path = e.path)
    (hlength : limit < (requestPath path e).length) :
    client.urlFor r = .error (.partTooLong .path) := by
  obtain ⟨-, -, -, -, hread⟩ := endpoint_path e
  have hresolve := h.resolve_eq e
  rw [h.withParts_eq, if_pos hlength] at hresolve
  simp [urlFor, hpath, hread, hresolve, bind, Except.bind]

/-- A request goes to the path of its endpoint below that of the base, with its query. -/
theorem exists_urlFor (h : client.baseUrl.IsBase path) (hpath : r.path = e.path)
    (hlength : (requestPath path e).length ≤ limit) {nodeId : Int}
    (hquery : r.query = [] ∨ r.query = [(Text.ofString "node_id", Text.ofInt nodeId)])
    (hqueryLength : (nodeText nodeId).length ≤ limit) :
    ∃ url, client.urlFor r = .ok url ∧ url.IsRead ∧ url.path = requestPath path e ∧
      url.query = if r.query.isEmpty then none else some (nodeText nodeId) := by
  obtain ⟨-, -, hnormal, -, hread⟩ := endpoint_path e
  obtain ⟨url, hurl, hurlRead, hurlPath, hurlQuery⟩ := h.exists_resolve hlength
  rcases hquery with hnone | hnode
  · refine ⟨url, ?_, hurlRead, hurlPath, ?_⟩
    · simp [urlFor, hpath, hread, hurl, hnone, bind, Except.bind, pure, Except.pure]
    · rw [hurlQuery, hnone]
      rfl
  · have hrooted := hurlRead.isRooted
    have hlength' : url.path.length ≤ limit := by rwa [hurlPath]
    obtain ⟨v, hv, hvRead, hvPath, hvQuery⟩ :=
      hurlRead.exists_withParts hrooted hurlRead.isPathPoint hlength'
        (some (nodeText nodeId)) (fun t ht => by cases ht; exact isQueryPoint_nodeText nodeId)
        hqueryLength
    have hsame : Url.normalizePath url.path = requestPath path e := by
      rw [hurlPath]
      exact normalizePath_of_isNormal (isNormal_basePath_append h.isNormal_path hnormal)
    refine ⟨v, ?_, hvRead, hvPath.trans hsame, ?_⟩
    · simp [urlFor, hpath, hread, hurl, hnode, withQuery, hv, bind, Except.bind]
    · rw [hvQuery, hnode]
      rfl

end HttpClient

end NodePanel
