import NodePanel.Panel.Error
import NodePanel.Proofs.Encoding.Lossy
import NodePanel.Proofs.Text.Basic
import NodePanel.Proofs.Text.Quoted

/-!
What the messages of errors show of a body. A body may be of any length and may hold anything; what is
shown of it is short, and where the body is no JSON it is also free of everything without a visible
form.
-/
namespace NodePanel.PanelError

/-- What is shown of a text: the text between the blanks at its ends, or the beginning of it. -/
inductive Shows : Text → Text → Prop where
  | whole {lead t trail : Text} (hlead : ∀ c ∈ lead, c.isBlank = true)
      (htrail : ∀ c ∈ trail, c.isBlank = true) (ht : Text.IsTrimmed CodePoint.isBlank t)
      (hlength : t.length ≤ 240) : Shows (lead ++ (t ++ trail)) t
  | beginning {lead t trail : Text} (hlead : ∀ c ∈ lead, c.isBlank = true)
      (htrail : ∀ c ∈ trail, c.isBlank = true) (ht : Text.IsTrimmed CodePoint.isBlank t)
      (hlength : 240 < t.length) : Shows (lead ++ (t ++ trail)) (t.take 240 ++ [CodePoint.ofChar '…'])

theorem shows_clip (t : Text) : Shows t (clip t) := by
  have ht : Text.IsTrimmed CodePoint.isBlank (Text.strip t) := Text.isTrimmed_trim
  obtain ⟨trail, hsplit, htrail⟩ :=
    Text.exists_dropEndWhile_append CodePoint.isBlank (t.dropWhile CodePoint.isBlank)
  have hlead : ∀ c ∈ t.takeWhile CodePoint.isBlank, c.isBlank = true :=
    List.all_eq_true.1 List.all_takeWhile
  have hparts : t = t.takeWhile CodePoint.isBlank ++ (Text.strip t ++ trail) := by
    change Text.strip t ++ trail = _ at hsplit
    rw [hsplit, List.takeWhile_append_dropWhile]
  unfold clip
  dsimp only
  split
  next hlong =>
    have hshows := Shows.beginning hlead htrail ht hlong
    rwa [← hparts] at hshows
  next hshort =>
    have hshows := Shows.whole hlead htrail ht (Nat.not_lt.1 hshort)
    rwa [← hparts] at hshows

theorem Shows.length_le {t shown : Text} (h : Shows t shown) : shown.length ≤ 241 := by
  cases h with
  | whole _ _ _ hlength => exact Nat.le_succ_of_le hlength
  | beginning _ _ _ hlength =>
    rw [List.length_append, List.length_take]
    exact Nat.succ_le_succ (Nat.min_le_left _ _)

private theorem isTrimmed_beginning {t : Text} (h : Text.IsTrimmed CodePoint.isBlank t) (n : Nat) :
    Text.IsTrimmed CodePoint.isBlank (t.take (n + 1) ++ [ellipsis]) := by
  constructor
  · cases t with
    | nil => rfl
    | cons c t => exact h.head
  · rw [List.getLast?_concat]
    rfl

private theorem Shows.clip_eq {t shown : Text} (h : Shows t shown) : clip shown = shown := by
  have hstrip {s : Text} (hs : Text.IsTrimmed CodePoint.isBlank s) : Text.strip s = s := hs.trim
  unfold clip
  cases h with
  | whole _ _ ht hlength =>
    rw [hstrip ht]
    exact if_neg (Nat.not_lt.2 hlength)
  | @beginning _ t _ _ _ ht hlength =>
    have htake : (t.take 240).length = 240 := by
      rw [List.length_take]
      exact Nat.min_eq_left (Nat.le_of_lt hlength)
    have hlong : clipLimit < (t.take 240 ++ [CodePoint.ofChar '…']).length := by
      rw [List.length_append, htake]
      exact Nat.lt_succ_self _
    have hshown : Text.strip (t.take 240 ++ [CodePoint.ofChar '…']) =
        t.take 240 ++ [CodePoint.ofChar '…'] := hstrip (isTrimmed_beginning ht 239)
    dsimp only
    rw [hshown, if_pos hlong, clipLimit, List.take_left' htake]
    rfl

private theorem message_malformedBody (path url : Text) (body : Octets) :
    message ⟨path, url, .malformedBody body⟩ = Text.ofString "request " ++
      (url ++ (Text.ofString " failed: invalid body " ++ Text.quoted (clipOctets body))) := by
  have hjoin : Text.ofString " failed: invalid body " =
      Text.ofString " failed: " ++ Text.ofString "invalid body " := by decide
  simp only [message, reason, hjoin, List.append_assoc]

private theorem message_http (path url : Text) (status : Int) (body : Octets) :
    message ⟨path, url, .http status body⟩ = Text.ofString "request " ++
      (url ++ (Text.ofString " failed: HTTP " ++
        (Text.ofInt status ++ (Text.ofString ", " ++ clipOctets body)))) := by
  have hjoin : Text.ofString " failed: HTTP " =
      Text.ofString " failed: " ++ Text.ofString "HTTP " := by decide
  simp only [message, reason, hjoin, List.append_assoc]

/-- Whatever a body is, the message on a status shows what it is read as with replacements, from the
front and up to 240 code points; the message on a body that is no JSON is at most 2450 code points
longer than the address and has nothing but visible code points apart from it; and what is shown once
is shown again as it is. -/
theorem messages_of_body (path url : Text) (status : Int) (body : Octets) :
    (∃ t shown, Utf8.ReadsLossily body t ∧ Shows t shown ∧ shown.length ≤ 241 ∧
      message ⟨path, url, .http status body⟩ = Text.ofString "request " ++
        (url ++ (Text.ofString " failed: HTTP " ++
          (Text.ofInt status ++ (Text.ofString ", " ++ shown))))) ∧
    (∃ before after, message ⟨path, url, .malformedBody body⟩ = before ++ (url ++ after) ∧
      before.length + after.length ≤ 2450 ∧ ∀ c ∈ before ++ after, c.isPrintable = true) ∧
    ∀ t, clip (clip t) = clip t := by
  have hshows : Shows (Utf8.decodeLossy body) (clipOctets body) := shows_clip _
  refine ⟨⟨_, _, Utf8.readsLossily_decodeLossy body, hshows, hshows.length_le,
    message_http path url status body⟩, ⟨_, _, message_malformedBody path url body, ?_, ?_⟩,
    fun t => (shows_clip t).clip_eq⟩
  · have hquoted := Text.length_quoted_le (clipOctets body)
    have hlength := hshows.length_le
    have hbefore : (Text.ofString "request ").length = 8 := by decide
    have hafter : (Text.ofString " failed: invalid body ").length = 22 := by decide
    rw [List.length_append]
    omega
  · intro c hc
    have hwords : ∀ c ∈ Text.ofString "request " ++ Text.ofString " failed: invalid body ",
        c.isPrintable = true := by decide
    rw [← List.append_assoc] at hc
    rcases List.mem_append.1 hc with hc | hc
    · exact hwords c hc
    · exact Text.isPrintable_of_mem_quoted hc

end NodePanel.PanelError
