import NodePanel.Proofs.Http.Host
import NodePanel.Proofs.Http.Path
import NodePanel.Proofs.Number.Digits

/-!
Plain addresses: a scheme, a plain host, perhaps a port, a path and perhaps a query, all written as
they are. Reading such an address, or putting another path on it, gives a plain address again, as
long as no part of it is too long.
-/
namespace NodePanel.Url

def IsPort (port : Int) : Prop := 0 ≤ port ∧ port < 65536

instance : DecidablePred IsPort := fun port => inferInstanceAs (Decidable (0 ≤ port ∧ port < 65536))

structure IsPlain (u : Url) : Prop where
  head_scheme : u.scheme.head?.any CodePoint.isAsciiLetter = true
  isSchemePoint : ∀ c ∈ u.scheme, isSchemePoint c = true
  userinfo_eq : u.userinfo = []
  isPlainHost : IsPlainHost u.host
  isPort : ∀ port ∈ u.port, IsPort port
  isRooted : IsRooted u.path
  isPathPoint : ∀ c ∈ u.path, isPathPoint c = true
  isQueryPoint : ∀ query ∈ u.query, ∀ c ∈ query, isQueryPoint c = true
  fragment_eq : u.fragment = none

instance : DecidablePred IsPlain := fun u =>
  decidable_of_iff (u.scheme.head?.any CodePoint.isAsciiLetter = true ∧
      (∀ c ∈ u.scheme, Url.isSchemePoint c = true) ∧ u.userinfo = [] ∧ IsPlainHost u.host ∧
      (∀ port ∈ u.port, IsPort port) ∧ IsRooted u.path ∧
      (∀ c ∈ u.path, Url.isPathPoint c = true) ∧
      (∀ query ∈ u.query, ∀ c ∈ query, Url.isQueryPoint c = true) ∧ u.fragment = none)
    ⟨fun ⟨h₁, h₂, h₃, h₄, h₅, h₆, h₇, h₈, h₉⟩ => ⟨h₁, h₂, h₃, h₄, h₅, h₆, h₇, h₈, h₉⟩,
      fun h => ⟨h.head_scheme, h.isSchemePoint, h.userinfo_eq, h.isPlainHost, h.isPort, h.isRooted,
        h.isPathPoint, h.isQueryPoint, h.fragment_eq⟩⟩

/-- A plain address as it was read: its host is in lower case, and the parts in front of the path are
no longer than an address may be. -/
structure IsRead (u : Url) : Prop extends IsPlain u where
  asciiLower_host : Text.asciiLower u.host = u.host
  length_scheme : u.scheme.length ≤ limit
  length_authority : u.authority.length ≤ limit

def portText (port : Option Int) : Text := port.elim [] Text.ofInt

theorem ofInt_eq_of_isPort {port : Int} (h : IsPort port) :
    Text.ofInt port = Text.ofNat port.natAbs :=
  if_neg (Int.not_lt.2 h.1)

private theorem isDigits_portText {port : Option Int} (h : ∀ p ∈ port, IsPort p) :
    (portText port).IsDigits := by
  cases port with
  | none => nofun
  | some port =>
    show (Text.ofInt port).IsDigits
    rw [ofInt_eq_of_isPort (h port rfl)]
    exact Numeral.isDigits_ofNat _

private theorem exists_portOf {port : Option Int} (h : ∀ p ∈ port, IsPort p) (scheme : Text) :
    ∃ port', (port' = none ∨ port' = port) ∧ portOf (portText port) scheme = .ok port' := by
  cases port with
  | none => exact ⟨none, .inl rfl, rfl⟩
  | some port =>
    have hport := h port rfl
    have hhigh := hport.2
    have hlow := hport.1
    have hlength : (Text.ofNat port.natAbs).length ≤ integerDigitLimit :=
      ((Numeral.length_ofNat_le_iff (k := 5) (by decide)).2 (by omega)).trans (by decide)
    have hread : Text.toInt? (Text.ofInt port) = some port := by
      rw [ofInt_eq_of_isPort hport, Text.toInt?_ofNat hlength]
      exact congrArg some (Int.natAbs_of_nonneg hport.1)
    have hne : (Text.ofInt port).isEmpty = false := by
      rw [ofInt_eq_of_isPort hport]
      exact List.isEmpty_eq_false_iff.2 (Numeral.ofNat_ne_nil _)
    refine ⟨if impliedPort? scheme = some port then none else some port, ?_, ?_⟩
    · exact (ite_eq_or_eq _ _ _)
    · simp [portOf, portText, hread, hne]

/-! The parts of an authority -/

def isAuthorityPoint (c : CodePoint) : Bool := isUnreserved c || c = CodePoint.ofChar ':'

namespace IsPlain

variable {u : Url}

theorem scheme_ne_nil (h : u.IsPlain) : u.scheme ≠ [] := by
  intro hnil
  have hhead := h.head_scheme
  rw [hnil] at hhead
  contradiction

theorem authority_eq (h : u.IsPlain) :
    u.authority = u.host ++ u.port.elim [] fun port => CodePoint.ofChar ':' :: Text.ofInt port := by
  have hcolon : CodePoint.ofChar ':' ∉ u.host := h.isPlainHost.not_mem (by decide)
  simp [authority, hostAndPort, hostText, h.userinfo_eq, hcolon]

theorem isAuthorityPoint_authority (h : u.IsPlain) :
    ∀ c ∈ u.authority, isAuthorityPoint c = true := by
  intro c hc
  have hdigits := isDigits_portText h.isPort
  rw [h.authority_eq] at hc
  rcases List.mem_append.1 hc with hhost | hport
  · simp [isAuthorityPoint, h.isPlainHost.isUnreserved c hhost]
  · cases hp : u.port with
    | none =>
      rw [hp] at hport
      contradiction
    | some port =>
      rw [hp] at hport hdigits
      rcases List.mem_cons.1 hport with rfl | hdigit
      · rfl
      · simp [isAuthorityPoint, isUnreserved, hdigits c hdigit]

theorem not_mem_authority (h : u.IsPlain) {c : CodePoint} (hc : isAuthorityPoint c = false) :
    c ∉ u.authority :=
  Text.not_mem_of_forall h.isAuthorityPoint_authority hc

private theorem splitAuthority_authority (h : u.IsPlain) :
    splitAuthority u.authority = ([], u.host, portText u.port) := by
  have hat : Text.cut? '@' u.authority.reverse = none := by
    apply Text.cut?_of_not_mem
    rw [List.mem_reverse]
    exact h.not_mem_authority (by decide)
  have hbracket : u.authority.head? ≠ some (CodePoint.ofChar '[') := fun heq =>
    h.not_mem_authority (by decide) (List.mem_of_mem_head? heq)
  have hspan : u.authority.span (· != CodePoint.ofChar ':') =
      (u.host, u.port.elim [] fun port => CodePoint.ofChar ':' :: Text.ofInt port) := by
    rw [h.authority_eq]
    refine Text.span_append (fun c hc => bne_iff_ne.2 ?_) ?_
    · rintro rfl
      exact h.isPlainHost.not_mem (by decide) hc
    · cases u.port <;> rfl
  unfold splitAuthority
  rw [hat]
  simp only [beq_iff_eq, hbracket, if_false, Option.getD_none, hspan]
  cases u.port <;> rfl

end IsPlain

/-! Putting an address together -/

private theorem any_head?_of_isRooted {path : Text} (h : IsRooted path) {p : CodePoint → Bool}
    (hslash : p slash = false) : path.head?.any p = false := by
  rcases h with rfl | ⟨rest, rfl⟩
  · rfl
  · exact hslash

private theorem isPathAllowed_of_isRooted {path : Text} (h : IsRooted path) (hasScheme : Bool) :
    isPathAllowed path hasScheme true = true := by
  rcases h with rfl | ⟨rest, rfl⟩
  · rfl
  · simp [isPathAllowed]

private theorem isSchemePoint_of_isAsciiLower {c : CodePoint} (h : c.isAsciiLower = true) :
    isSchemePoint c = true := by
  simp [isSchemePoint, CodePoint.isAsciiLetter, h]

private theorem encode_option {safe : CodePoint → Bool} {part : Option Text}
    (h : ∀ t ∈ part, ∀ c ∈ t, safe c = true) : part.mapM (encode safe) = .ok part := by
  cases part with
  | none => rfl
  | some t =>
    show (encode safe t).map some = _
    rw [encode_of_forall (h t rfl)]
    rfl

private theorem IsPlain.lowered {u : Url} (h : u.IsPlain) {port : Option Int}
    (hport : port = none ∨ port = u.port) {path : Text} (hrooted : IsRooted path)
    (hpath : ∀ c ∈ path, Url.isPathPoint c = true) {query : Option Text}
    (hquery : ∀ t ∈ query, ∀ c ∈ t, Url.isQueryPoint c = true) :
    IsPlain ⟨Text.asciiLower u.scheme, [], Text.asciiLower u.host, port, path, query, none⟩ where
  head_scheme := by
    obtain ⟨c, hc, hletter⟩ := (Option.any_eq_true _ _).1 h.head_scheme
    simp [Text.asciiLower, hc, CodePoint.isAsciiLetter_asciiLower hletter]
  isSchemePoint := Text.forall_asciiLower (fun _ => isSchemePoint_of_isAsciiLower) h.isSchemePoint
  userinfo_eq := rfl
  isPlainHost := h.isPlainHost.asciiLower
  isPort := by
    rcases hport with rfl | rfl
    · exact fun p hp => absurd hp (Option.not_mem_none p)
    · exact h.isPort
  isRooted := hrooted
  isPathPoint := hpath
  isQueryPoint := hquery
  fragment_eq := rfl

theorem IsPlain.exists_make {u : Url} (h : u.IsPlain) (hscheme : u.scheme.length ≤ limit)
    (hauthority : u.authority.length ≤ limit) {path : Text} (hrooted : IsRooted path)
    (hpath : ∀ c ∈ path, Url.isPathPoint c = true) {query : Option Text}
    (hquery : ∀ t ∈ query, ∀ c ∈ t, Url.isQueryPoint c = true) :
    ∃ v, make u.scheme u.authority path query none = .ok v ∧ v.IsRead ∧
      v.path = normalizePath path ∧ v.query = query := by
  obtain ⟨port, hkept, hport⟩ := exists_portOf h.isPort u.scheme
  obtain ⟨-, hrooted', hsubset⟩ := normalizePath_rooted hrooted
  -- What `make` gives: encoding changes nothing, as every part consists of points that may stay.
  let v : Url := ⟨Text.asciiLower u.scheme, [], Text.asciiLower u.host, port, normalizePath path,
    query, none⟩
  have hplain : v.IsPlain := h.lowered hkept hrooted' (fun c hc => hpath c (hsubset hc)) hquery
  have hshorter : v.authority.length ≤ u.authority.length := by
    rw [hplain.authority_eq, h.authority_eq]
    rcases hkept with rfl | rfl
    · simp [v]
    · simp [v]
  have hread : v.IsRead :=
    { hplain with
      asciiLower_host := Text.asciiLower_asciiLower _
      length_scheme := (Text.length_asciiLower _).trans_le hscheme
      length_authority := hshorter.trans hauthority }
  refine ⟨v, ?_, hread, rfl, rfl⟩
  have hhost : Text.asciiLower u.host ≠ [] := h.isPlainHost.asciiLower.ne_nil
  have hallowed : isPathAllowed path (!u.scheme.isEmpty)
      (!(Text.asciiLower u.host).isEmpty || port.isSome) = true := by
    rw [List.isEmpty_eq_false_iff.2 hhost]
    exact isPathAllowed_of_isRooted hrooted _
  have hencoded := encode_of_forall hplain.isPathPoint
  simp [make, h.splitAuthority_authority, h.isPlainHost.hostOf_eq, hport, encode_option hquery,
    h.scheme_ne_nil, hallowed, encode, hencoded, v, bind, Except.bind, pure, Except.pure]

/-! Reading an address -/

private theorem bounds_of_isSchemePoint {c : CodePoint} (h : Url.isSchemePoint c = true) :
    0x20 < c.val ∧ c.val < 0x7F := by
  simp only [Url.isSchemePoint, CodePoint.isAsciiLetter, CodePoint.isAsciiUpper,
    CodePoint.isAsciiLower, CodePoint.isAsciiDigit, Bool.or_eq_true, Bool.and_eq_true,
    decide_eq_true_eq] at h
  rcases h with ((h | h) | h) | h
  · omega
  · omega
  · omega
  · have hmem : ∀ d ∈ Text.ofString "+.-", 0x20 < d.val ∧ d.val < 0x7F := by decide
    exact hmem c (List.contains_iff_mem.1 h)

theorem bounds_of_isAuthorityPoint {c : CodePoint} (h : isAuthorityPoint c = true) :
    0x20 < c.val ∧ c.val < 0x7F := by
  rcases Bool.or_eq_true_iff.1 h with hunreserved | hcolon
  · exact bounds_of_isUnreserved hunreserved
  · rw [of_decide_eq_true hcolon]
    decide

private theorem bounds_of_visibleExcept {chars : String} {c : CodePoint}
    (h : visibleExcept chars c = true) : 0x20 < c.val ∧ c.val < 0x7F := by
  simp only [visibleExcept, Bool.and_eq_true, decide_eq_true_eq] at h
  exact h.1

namespace IsPlain

variable {u : Url}

theorem toText_eq (h : u.IsPlain) :
    u.toText = u.scheme ++ CodePoint.ofChar ':' :: (Text.ofString "//" ++ (u.authority ++
      (u.path ++ u.query.elim [] (CodePoint.ofChar '?' :: ·)))) := by
  have hauthority : u.authority ≠ [] := by
    rw [h.authority_eq]
    exact List.append_ne_nil_of_left_ne_nil h.isPlainHost.ne_nil _
  simp [toText, h.scheme_ne_nil, hauthority, h.fragment_eq, Text.ofString]

theorem hasType (h : u.IsPlain) : u.hasType = true := by
  have hscheme (c : CodePoint) (hc : c ∈ u.scheme) : (!isIn "/:" c) = true := by
    have hc' : isIn "/:" c = false :=
      isIn_eq_false (p := Url.isSchemePoint) (by decide) (h.isSchemePoint c hc)
    simp [hc']
  unfold Url.hasType
  rw [h.toText_eq, Text.span_append hscheme rfl]
  simp [h.scheme_ne_nil]

theorem bounds_of_mem_toText (h : u.IsPlain) (hquery : u.query = none) :
    ∀ c ∈ u.toText, 0x20 < c.val ∧ c.val < 0x7F := by
  have hslashes : ∀ c ∈ Text.ofString "//", 0x20 < c.val ∧ c.val < 0x7F := by decide
  intro c hc
  rw [h.toText_eq, hquery, Option.elim_none, List.append_nil] at hc
  simp only [List.mem_append, List.mem_cons] at hc
  rcases hc with hscheme | rfl | hslash | hauthority | hpath
  · exact bounds_of_isSchemePoint (h.isSchemePoint c hscheme)
  · decide
  · exact hslashes c hslash
  · exact bounds_of_isAuthorityPoint (h.isAuthorityPoint_authority c hauthority)
  · exact bounds_of_visibleExcept (h.isPathPoint c hpath)

private theorem takeScheme_toText (h : u.IsPlain) (hquery : u.query = none) :
    takeScheme u.toText = (u.scheme, Text.ofString "//" ++ (u.authority ++ u.path)) := by
  have htext := h.toText_eq
  rw [hquery, Option.elim_none, List.append_nil] at htext
  have hspan : u.toText.span Url.isSchemePoint =
      (u.scheme, CodePoint.ofChar ':' :: (Text.ofString "//" ++ (u.authority ++ u.path))) := by
    rw [htext]
    exact Text.span_append h.isSchemePoint rfl
  have hhead : u.toText.head?.any CodePoint.isAsciiLetter = true := by
    rw [htext, List.head?_append_of_ne_nil _ h.scheme_ne_nil]
    exact h.head_scheme
  simp [takeScheme, hhead, hspan, -List.span_eq_takeWhile_dropWhile]

theorem ofText_toText (h : u.IsPlain) (hquery : u.query = none) (hlength : u.toText.length ≤ limit) :
    ofText u.toText = make u.scheme u.authority u.path none none := by
  have hcontrol : u.toText.any (fun c => c.val < 0x20 || c.val == 0x7F) = false := by
    rw [List.any_eq_false]
    intro c hc
    obtain ⟨hlow, hhigh⟩ := h.bounds_of_mem_toText hquery c hc
    simp only [Bool.or_eq_true, decide_eq_true_eq, beq_iff_eq, not_or]
    omega
  have hauthority : (u.authority ++ u.path).span (!isAuthorityEnd ·) = (u.authority, u.path) := by
    refine Text.span_append (fun c hc => ?_) (any_head?_of_isRooted h.isRooted rfl)
    have hc' : isIn "/?#" c = false :=
      isIn_eq_false (p := isAuthorityPoint) (by decide) (h.isAuthorityPoint_authority c hc)
    simp [isAuthorityEnd, hc']
  have hpath : u.path.span (!isPathEnd ·) = (u.path, []) := by
    refine (congrArg _ (List.append_nil u.path).symm).trans (Text.span_append (fun c hc => ?_) rfl)
    have hc' : isIn "?#" c = false :=
      isIn_eq_false (p := Url.isPathPoint) (by decide) (h.isPathPoint c hc)
    simp [isPathEnd, hc']
  unfold ofText
  rw [if_neg (by simp [hcontrol, hlength]), h.takeScheme_toText hquery]
  simp [hauthority, hpath, Text.startsWith, Text.ofString, -List.span_eq_takeWhile_dropWhile]

theorem exists_ofText (h : u.IsPlain) (hquery : u.query = none) (hlength : u.toText.length ≤ limit) :
    ∃ v, ofText u.toText = .ok v ∧ v.IsRead ∧ v.path = normalizePath u.path ∧ v.query = none := by
  have hlengths : u.scheme.length ≤ limit ∧ u.authority.length ≤ limit := by
    have htext := hlength
    rw [h.toText_eq] at htext
    simp only [List.length_append, List.length_cons] at htext
    omega
  rw [h.ofText_toText hquery hlength]
  exact h.exists_make hlengths.1 hlengths.2 h.isRooted h.isPathPoint nofun

end IsPlain

/-! Other paths on an address -/

theorem withTarget_eq (u : Url) {path : Text} (hpath : ∀ c ∈ path, isPathPoint c = true) :
    u.withTarget path = u.withParts path none := by
  have hcut : Text.cut? '?' path = none :=
    Text.cut?_of_not_mem (Text.not_mem_of_forall hpath (by decide))
  simp [withTarget, hcut]

namespace IsRead

variable {u : Url}

theorem withParts_eq (h : u.IsRead) (path : Text) (query : Option Text) :
    u.withParts path query =
      if limit < path.length then .error (.partTooLong .path)
      else if limit < (query.getD []).length then .error (.partTooLong .query)
      else make u.scheme u.authority path query none := by
  have hscheme := Nat.not_lt.2 h.length_scheme
  have hauthority := Nat.not_lt.2 h.length_authority
  unfold withParts longPart?
  by_cases hpath : limit < path.length
  · simp [hscheme, hauthority, hpath]
  · by_cases hquery : limit < (query.getD []).length
    · simp [hscheme, hauthority, hpath, hquery]
    · simp [hscheme, hauthority, hpath, hquery, h.fragment_eq]

theorem exists_withParts (h : u.IsRead) {path : Text} (hrooted : IsRooted path)
    (hpath : ∀ c ∈ path, Url.isPathPoint c = true) (hpathLength : path.length ≤ limit)
    (query : Option Text) (hquery : ∀ t ∈ query, ∀ c ∈ t, Url.isQueryPoint c = true)
    (hqueryLength : (query.getD []).length ≤ limit) :
    ∃ v, u.withParts path query = .ok v ∧ v.IsRead ∧ v.path = normalizePath path ∧
      v.query = query := by
  rw [h.withParts_eq, if_neg (Nat.not_lt.2 hpathLength), if_neg (Nat.not_lt.2 hqueryLength)]
  exact h.exists_make h.length_scheme h.length_authority hrooted hpath hquery

end IsRead

end NodePanel.Url
