import NodePanel.Proofs.Keyed
import NodePanel.Proofs.Session.Prepare
import NodePanel.Proofs.Settings.Host

/-!
Headers of a client that is given extra ones. An extra header is meant to take the place of the
client's own one. It does so in the very same spelling; in another spelling it comes behind, and the
two values are read together.
-/
namespace NodePanel

namespace Headers

def Same (a b : Text) : Prop := Text.asciiLower a = Text.asciiLower b

instance : DecidableRel Same := fun _ b => inferInstanceAs (Decidable (_ = Text.asciiLower b))

def IsOneSpelling (headers : Headers) : Prop := (headers.map fun e => Text.asciiLower e.1).Nodup

instance : DecidablePred IsOneSpelling := fun headers =>
  inferInstanceAs (Decidable (headers.map fun e => Text.asciiLower e.1).Nodup)

def named (headers : Headers) (name : Text) : Headers :=
  headers.filter fun e => Text.asciiLower e.1 == Text.asciiLower name

variable {headers others : Headers} {name : Text} {entry : Text × Text}

theorem valuesOf_of_named {entries : Headers} (h : headers.named name = entries) :
    headers.valuesOf name = entries.map (·.2) :=
  congrArg (List.map Prod.snd) h

theorem named_eq_nil (h : ∀ e ∈ headers, ¬ Same e.1 name) : headers.named name = [] :=
  List.filter_eq_nil_iff.2 fun e he heq => h e he (beq_iff_eq.1 heq)

theorem IsOneSpelling.named_eq (h : headers.IsOneSpelling) (hmem : entry ∈ headers)
    (hname : Same entry.1 name) : headers.named name = [entry] := by
  unfold named
  unfold Same at hname
  induction headers with
  | nil => contradiction
  | cons e headers ih =>
    obtain ⟨hnew, hone⟩ := List.nodup_cons.1 h
    rw [List.filter_cons]
    rcases List.mem_cons.1 hmem with rfl | hmem
    · rw [if_pos (beq_iff_eq.2 hname), List.filter_eq_nil_iff.2 fun e he heq => ?_]
      exact hnew (List.mem_map.2 ⟨e, he, (beq_iff_eq.1 heq).trans hname.symm⟩)
    · rw [if_neg fun heq => ?_, ih hone hmem]
      exact hnew (List.mem_map.2 ⟨entry, hmem, hname.trans (beq_iff_eq.1 heq).symm⟩)

theorem IsOneSpelling.eq_of_same (h : headers.IsOneSpelling) {e : Text × Text} (he : e ∈ headers)
    (hentry : entry ∈ headers) (hname : Same e.1 name) (hname' : Same entry.1 name) : e = entry :=
  List.singleton_inj.1 ((h.named_eq he hname).symm.trans (h.named_eq hentry hname'))

@[simp] theorem named_putAll : named (Keyed.putAll headers others) name =
    Keyed.putAll (headers.named name) (others.named name) :=
  Keyed.filter_putAll fun n => Text.asciiLower n == Text.asciiLower name

end Headers

namespace HttpClient

open Headers

/-- The value that a header is meant to have: that of an extra header with the name in any spelling,
or else the client's own one. -/
inductive Intended (key : Text) (extra : Headers) (name : Text) : Text → Prop where
  | extra {entry : Text × Text} (hmem : entry ∈ extra) (hname : Same entry.1 name) :
      Intended key extra name entry.2
  | own {entry : Text × Text} (hmem : entry ∈ ownHeaders key) (hname : Same entry.1 name)
      (hextra : ∀ e ∈ extra, ¬ Same e.1 name) : Intended key extra name entry.2

/-- A name of one of the client's own headers in another spelling. -/
def Respells (name : Text) : Prop := ∃ own ∈ [keyHeader, acceptHeader], Same name own ∧ name ≠ own

instance : DecidablePred Respells := fun name =>
  inferInstanceAs (Decidable (∃ own ∈ [keyHeader, acceptHeader], Same name own ∧ name ≠ own))

variable {key name : Text} {extra : Headers} {own entry : Text × Text}

theorem isOneSpelling_ownHeaders (key : Text) : (ownHeaders key).IsOneSpelling := by
  show [Text.asciiLower keyHeader, Text.asciiLower acceptHeader].Nodup
  decide

theorem Intended.unique (hone : extra.IsOneSpelling) {value value' : Text}
    (h : Intended key extra name value) (h' : Intended key extra name value') : value = value' := by
  cases h with
  | extra hmem hname =>
    cases h' with
    | extra hmem' hname' => exact congrArg Prod.snd (hone.eq_of_same hmem hmem' hname hname')
    | own _ _ hextra => exact absurd hname (hextra _ hmem)
  | own hmem hname hextra =>
    cases h' with
    | extra hmem' hname' => exact absurd hname' (hextra _ hmem')
    | own hmem' hname' =>
      exact congrArg Prod.snd ((isOneSpelling_ownHeaders key).eq_of_same hmem hmem' hname hname')

@[simp] theorem named_headersFor : (headersFor key extra).named name =
    Keyed.putAll ((ownHeaders key).named name) (extra.named name) :=
  named_putAll

private theorem name_mem_of_mem_ownHeaders (h : own ∈ ownHeaders key) :
    own.1 ∈ [keyHeader, acceptHeader] :=
  List.mem_map_of_mem h

private theorem valuesOf_of_own (hown : own ∈ ownHeaders key) (hname : Same own.1 name)
    (hextra : ∀ e ∈ extra, ¬ Same e.1 name) : (headersFor key extra).valuesOf name = [own.2] := by
  have hnamed : (headersFor key extra).named name = [own] := by
    rw [named_headersFor, (isOneSpelling_ownHeaders key).named_eq hown hname, named_eq_nil hextra]
    rfl
  exact valuesOf_of_named hnamed

theorem valuesOf_of_respelled (hone : extra.IsOneSpelling) (hown : own ∈ ownHeaders key)
    (hownName : Same own.1 name) (hentry : entry ∈ extra) (hname : Same entry.1 name)
    (hne : entry.1 ≠ own.1) : (headersFor key extra).valuesOf name = [own.2, entry.2] := by
  have hnamed : (headersFor key extra).named name = [own, entry] := by
    rw [named_headersFor, (isOneSpelling_ownHeaders key).named_eq hown hownName,
      hone.named_eq hentry hname]
    exact Keyed.put_of_not_mem fun h => hne (List.mem_singleton.1 h)
  exact valuesOf_of_named hnamed

private theorem valuesOf_of_extra (hone : extra.IsOneSpelling) (hentry : entry ∈ extra)
    (hname : Same entry.1 name) (hrespells : ¬ Respells entry.1) :
    (headersFor key extra).valuesOf name = [entry.2] := by
  have hnamed : (headersFor key extra).named name = [entry] := by
    rw [named_headersFor, hone.named_eq hentry hname]
    by_cases hown : ∃ own ∈ ownHeaders key, Same own.1 name
    · obtain ⟨own, hown, hownName⟩ := hown
      have heq : own.1 = entry.1 := by
        by_contra hne
        exact hrespells ⟨own.1, name_mem_of_mem_ownHeaders hown, hname.trans hownName.symm,
          Ne.symm hne⟩
      rw [(isOneSpelling_ownHeaders key).named_eq hown hownName]
      simp [Keyed.putAll, Keyed.put, heq]
    · rw [named_eq_nil fun own hmem hsame => hown ⟨own, hmem, hsame⟩]
      rfl
  exact valuesOf_of_named hnamed

private theorem exists_of_respells (h : Respells name) :
    ∃ own ∈ ownHeaders key, Same name own.1 ∧ name ≠ own.1 := by
  obtain ⟨n, hn, hsame, hne⟩ := h
  obtain ⟨own, hown, rfl⟩ : ∃ own ∈ ownHeaders key, own.1 = n := List.mem_map.1 hn
  exact ⟨own, hown, hsame, hne⟩

/-- A header has the one value that it is meant to have unless an extra header respells its name. -/
theorem exists_intended (hone : extra.IsOneSpelling)
    (hname : ∃ e ∈ ownHeaders key ++ extra, Same e.1 name) :
    ∃ value, Intended key extra name value ∧ ((headersFor key extra).valuesOf name = [value] ↔
      ∀ e ∈ extra, Same e.1 name → ¬ Respells e.1) := by
  by_cases hextra : ∃ e ∈ extra, Same e.1 name
  · obtain ⟨entry, hentry, hsame⟩ := hextra
    refine ⟨entry.2, .extra hentry hsame, fun hvalues e he hesame hrespells => ?_, fun h =>
      valuesOf_of_extra hone hentry hsame (h entry hentry hsame)⟩
    obtain ⟨own, hown, hown', hne⟩ := exists_of_respells hrespells
    rw [valuesOf_of_respelled hone hown (hown'.symm.trans hesame) he hesame hne] at hvalues
    simp at hvalues
  · have hother : ∀ e ∈ extra, ¬ Same e.1 name := fun e he hsame => hextra ⟨e, he, hsame⟩
    obtain ⟨own, hmem, hsame⟩ := hname
    have hown : own ∈ ownHeaders key :=
      (List.mem_append.1 hmem).resolve_right fun hmem => hother own hmem hsame
    exact ⟨own.2, .own hown hsame hother, iff_of_true (valuesOf_of_own hown hsame hother)
      fun e he hsame => absurd hsame (hother e he)⟩

private theorem fault?_headersFor (hkey : ∀ c ∈ key, c.isAscii = true)
    (hextra : ∀ e ∈ extra, (∀ c ∈ e.1, c.isAscii = true) ∧ ∀ c ∈ e.2, c.isAscii = true) :
    (headersFor key extra).fault? = none := by
  refine fault?_eq_none_iff.2 fun e he => ?_
  rcases Keyed.mem_of_mem_putAll he with hown | hmem
  · exact fault?_eq_none_iff.1 (fault?_ownHeaders_eq_none_iff.2 hkey) e hown
  · exact hextra e hmem

private theorem headers_of_prepare {client : HttpClient} {r : Request} {wire : WireRequest}
    (h : client.prepare r = .ok wire) : wire.headers = client.headers := by
  obtain ⟨url, -, h⟩ := Result.bind_eq_ok_iff.1 h
  obtain ⟨body, -, h⟩ := Result.bind_eq_ok_iff.1 h
  obtain ⟨-, -, h⟩ := Result.bind_eq_ok_iff.1 h
  cases h
  rfl

/-- Whatever is in ASCII can be an extra header. Each header of the client has the one value that it
is meant to have if no extra header respells a name of the client's own; where one does, its value
comes behind the own one, the key included. Every request leaves with these headers. -/
theorem intended_value_iff {settings : Settings} {extra : Headers}
    (hkey : ∀ c ∈ settings.key, c.isAscii = true)
    (hextra : ∀ e ∈ extra, (∀ c ∈ e.1, c.isAscii = true) ∧ ∀ c ∈ e.2, c.isAscii = true)
    (hone : extra.IsOneSpelling) :
    ((∃ client, create settings extra = .ok client) ↔
      ∃ url base, Url.ofText settings.apiHost = .ok url ∧ url.asBase = .ok base) ∧
    ∀ client, create settings extra = .ok client →
      (∀ name, (∃ e ∈ ownHeaders settings.key ++ extra, Same e.1 name) →
        ∃ value, Intended settings.key extra name value ∧
          (client.headers.valuesOf name = [value] ↔ ∀ e ∈ extra, Same e.1 name → ¬ Respells e.1)) ∧
      (∀ own ∈ ownHeaders settings.key, ∀ e ∈ extra, Same e.1 own.1 → e.1 ≠ own.1 →
        client.headers.get? own.1 = some (own.2 ++ (Text.ofString ", " ++ e.2))) ∧
      ∀ r wire, client.prepare r = .ok wire → wire.headers = client.headers := by
  have hfault := fault?_headersFor hkey hextra
  refine ⟨?_, fun client hclient => ?_⟩
  · constructor
    · rintro ⟨client, hclient⟩
      obtain ⟨url, base, hurl, hbase, -⟩ := create_eq_ok_iff.1 hclient
      exact ⟨url, base, hurl, hbase⟩
    · rintro ⟨url, base, hurl, hbase⟩
      exact ⟨_, create_eq_ok_iff.2 ⟨url, base, hurl, hbase, hfault, rfl⟩⟩
  · obtain ⟨url, base, -, -, -, rfl⟩ := create_eq_ok_iff.1 hclient
    refine ⟨fun name => exists_intended hone, fun own hown e he hsame hne => ?_,
      fun r wire => headers_of_prepare⟩
    have hvalues := valuesOf_of_respelled hone hown rfl he hsame hne
    simp [Headers.get?, hvalues, Text.join]

def keyOwner : Settings := { Settings.ofHost Settings.defaultHost with key := "abc" }

/-- Another key in another spelling is sent behind the key, in the same spelling in its place. -/
theorem intended_value_of_two_spellings :
    (∃ client, create keyOwner [("Key", "x")] = .ok client ∧
      client.headers.get? "key" = some "abc, x" ∧
      ¬ ∃ value, client.headers.valuesOf "key" = [value] ∧
        Intended "abc" [("Key", "x")] "key" value) ∧
    ∃ client, create keyOwner [("key", "x"), ("X-Trace", "1")] = .ok client ∧
      client.headers.valuesOf "KEY" = [Text.ofString "x"] := by
  have haddress : ∃ url base, Url.ofText keyOwner.apiHost = .ok url ∧ url.asBase = .ok base :=
    ⟨⟨"http", [], "127.0.0.1", some 8000, [], none, none⟩, _, by decide +kernel, rfl⟩
  have hkey : ∀ c ∈ keyOwner.key, c.isAscii = true := by decide
  constructor
  · have hone : IsOneSpelling [("Key", "x")] := by decide
    obtain ⟨hcreate, hheaders⟩ := intended_value_iff hkey (by decide) hone
    obtain ⟨client, hclient⟩ := hcreate.2 haddress
    obtain ⟨hvalue, hboth, -⟩ := hheaders client hclient
    refine ⟨client, hclient, ?_, ?_⟩
    · exact hboth ("key", "abc") (by decide) ("Key", "x") (by decide) (by decide) (by decide)
    · rintro ⟨value, hsingle, hintended⟩
      obtain ⟨value', hintended', hiff⟩ := hvalue "key" (by decide)
      rw [hintended.unique hone hintended', hiff] at hsingle
      exact hsingle ("Key", "x") (by decide) (by decide) (by decide)
  · have hone : IsOneSpelling [("key", "x"), ("X-Trace", "1")] := by decide
    obtain ⟨hcreate, hheaders⟩ := intended_value_iff hkey (by decide) hone
    obtain ⟨client, hclient⟩ := hcreate.2 haddress
    obtain ⟨hvalue, -⟩ := hheaders client hclient
    obtain ⟨value, hintended, hiff⟩ := hvalue "KEY" (by decide)
    have hextra : Intended keyOwner.key [("key", "x"), ("X-Trace", "1")] "KEY" "x" :=
      .extra List.mem_cons_self (by decide)
    refine ⟨client, hclient, ?_⟩
    rw [hextra.unique hone hintended]
    exact hiff.2 (by decide)

end HttpClient

end NodePanel
