import NodePanel.Text.Blank

/-!
The grammar in which settings files are read. A binding is a key, optionally after `export`, and
optionally `=` and a value; a value in quotes may hold line breaks and escapes, and one without
quotes ends before a comment. What is no binding is skipped up to the end of its line. Reading never
goes back, and every binding and every skipped line takes at least one code point.
-/
namespace NodePanel.EnvFile

def isNewline (c : CodePoint) : Bool := c = '\n'

def isInlineBlank (c : CodePoint) : Bool := c.isBlank && !isNewline c

def dropInlineBlanks (t : Text) : Text := t.dropWhile isInlineBlank

/-- The word `export` and the blanks after it, of which there is at least one. -/
def dropExport (t : Text) : Text :=
  let word := Text.ofString "export"
  if word.isPrefixOf t then
    let rest := t.drop word.length
    if rest.head?.any isInlineBlank then dropInlineBlanks rest else t
  else t

/-- What is left of a text where it could not be read any further. -/
abbrev Stuck := Text

def isKeyPoint (c : CodePoint) : Bool :=
  !c.isBlank && c != CodePoint.ofChar '=' && c != CodePoint.ofChar '#'

def readKey (t : Text) : Except Stuck (Text × Text) :=
  match t with
  | [] => .error t
  | c :: rest =>
    if c = '\'' then
      match Text.cut? '\'' rest with
      | some (key, after) => if key.isEmpty then .error t else .ok (key, after)
      | none => .error t
    else if isKeyPoint c then .ok (t.takeWhile isKeyPoint, t.dropWhile isKeyPoint)
    else .error t

/-- The text before the first quote that no backslash escapes, and the text after it. Of two
backslashes the first escapes the second. -/
def cutQuote? (quote : CodePoint) (escaped : Bool) : Text → Option (Text × Text)
  | [] => none
  | c :: rest =>
    if c = quote && !escaped then some ([], rest)
    else
      (cutQuote? quote (c = '\\' && !escaped) rest).map fun (before, after) => (c :: before, after)

def escaped? (c : CodePoint) : Option CodePoint :=
  if c = '\\' || c = '\'' || c = '"' then some c
  else if c = 'a' then some (CodePoint.ofNat 0x07)
  else if c = 'b' then some (CodePoint.ofNat 0x08)
  else if c = 'f' then some (CodePoint.ofNat 0x0C)
  else if c = 'n' then some '\n'
  else if c = 'r' then some '\r'
  else if c = 't' then some '\t'
  else if c = 'v' then some (CodePoint.ofNat 0x0B)
  else none

def escapedSingle? (c : CodePoint) : Option CodePoint :=
  if c = '\\' || c = '\'' then some c else none

def unescape (meaning : CodePoint → Option CodePoint) : Text → Text
  | [] => []
  | [c] => [c]
  | c :: d :: rest =>
    match (if c = '\\' then meaning d else none) with
    | some e => e :: unescape meaning rest
    | none => c :: unescape meaning (d :: rest)

/-- The text before the first blanks that are followed by a number sign. -/
def dropComment : Text → Text
  | [] => []
  | c :: rest =>
    if c.isBlank && (rest.dropWhile CodePoint.isBlank).head? == some (CodePoint.ofChar '#') then []
    else c :: dropComment rest

def readValue (t : Text) : Except Stuck (Text × Text) :=
  match t with
  | [] => .ok ([], t)
  | c :: rest =>
    if c = '\'' then
      match cutQuote? '\'' false rest with
      | some (value, after) => .ok (unescape escapedSingle? value, after)
      | none => .error t
    else if c = '"' then
      match cutQuote? '"' false rest with
      | some (value, after) => .ok (unescape escaped? value, after)
      | none => .error t
    else
      .ok (Text.dropEndWhile CodePoint.isBlank (dropComment (t.takeWhile (!isNewline ·))),
        t.dropWhile (!isNewline ·))

/-- The value of a binding, if an equals sign comes next. A comment behind it, with blanks between
them, means that the value is empty. -/
def readAssignment (t : Text) : Except Stuck (Option Text × Text) :=
  match t with
  | c :: rest =>
    if c = '=' then
      let after := dropInlineBlanks rest
      if rest.head?.any isInlineBlank && after.head? == some (CodePoint.ofChar '#') then
        .ok (some [], after)
      else (readValue after).map fun (value, after) => (some value, after)
    else .ok (none, t)
  | [] => .ok (none, t)

def readLineEnd (t : Text) : Except Stuck Text :=
  let after := dropInlineBlanks t
  let t := if after.head? == some (CodePoint.ofChar '#') then after.dropWhile (!isNewline ·) else t
  match dropInlineBlanks t with
  | [] => .ok []
  | c :: rest => if isNewline c then .ok rest else .error t

abbrev Binding := Text × Option Text

theorem length_dropWhile_le (p : CodePoint → Bool) (t : Text) :
    (t.dropWhile p).length ≤ t.length :=
  (List.dropWhile_suffix p).length_le

theorem length_dropInlineBlanks_le (t : Text) : (dropInlineBlanks t).length ≤ t.length :=
  length_dropWhile_le _ t

theorem length_dropExport_le (t : Text) : (dropExport t).length ≤ t.length := by
  unfold dropExport
  dsimp only
  split
  · split
    · have := length_dropInlineBlanks_le (t.drop (Text.ofString "export").length)
      rw [List.length_drop] at this
      omega
    · exact Nat.le_refl _
  · exact Nat.le_refl _

theorem length_lt_of_readKey {t key after : Text} (h : readKey t = .ok (key, after)) :
    after.length < t.length := by
  unfold readKey at h
  split at h
  next => contradiction
  next c rest =>
    split at h
    next =>
      split at h
      next found after' hcut =>
        split at h
        next => contradiction
        next =>
          cases h
          have := Text.length_lt_of_cut? hcut
          rw [List.length_cons]
          omega
      next => contradiction
    next =>
      split at h
      next hc =>
        cases h
        have := length_dropWhile_le isKeyPoint rest
        rw [List.dropWhile_cons_of_pos hc, List.length_cons]
        omega
      next => contradiction

theorem eq_of_readKey_error {t stuck : Text} (h : readKey t = .error stuck) : stuck = t := by
  unfold readKey at h
  split at h
  next => cases h; rfl
  next =>
    split at h
    next =>
      split at h
      next =>
        split at h
        next => cases h; rfl
        next => contradiction
      next => cases h; rfl
    next =>
      split at h
      next => contradiction
      next => cases h; rfl

theorem length_lt_of_cutQuote? {quote : CodePoint} {escaped : Bool} {t before after : Text}
    (h : cutQuote? quote escaped t = some (before, after)) : after.length < t.length := by
  induction t generalizing escaped before with
  | nil => contradiction
  | cons c rest ih =>
    unfold cutQuote? at h
    split at h
    next => cases h; exact Nat.lt_succ_self _
    next =>
      obtain ⟨⟨inner, after'⟩, hcut, heq⟩ := Option.map_eq_some_iff.1 h
      cases heq
      exact Nat.lt_succ_of_lt (ih hcut)

def remainder (rest : α → Text) : Except Stuck α → Text
  | .ok a => rest a
  | .error stuck => stuck

theorem length_remainder_readValue_le (t : Text) :
    (remainder Prod.snd (readValue t)).length ≤ t.length := by
  unfold readValue
  split
  · exact Nat.le_refl _
  next c rest =>
    split
    · split
      next hread => exact Nat.le_succ_of_le (Nat.le_of_lt (length_lt_of_cutQuote? hread))
      next => exact Nat.le_refl _
    · split
      · split
        next hread => exact Nat.le_succ_of_le (Nat.le_of_lt (length_lt_of_cutQuote? hread))
        next => exact Nat.le_refl _
      · exact length_dropWhile_le _ _

theorem length_remainder_readAssignment_le (t : Text) :
    (remainder Prod.snd (readAssignment t)).length ≤ t.length := by
  unfold readAssignment
  split
  next c rest =>
    have hblanks := length_dropInlineBlanks_le rest
    dsimp only
    split
    · split
      · exact Nat.le_succ_of_le hblanks
      · have hvalue := length_remainder_readValue_le (dropInlineBlanks rest)
        have hle := Nat.le_succ_of_le (Nat.le_trans hvalue hblanks)
        cases hread : readValue (dropInlineBlanks rest) with
        | error stuck => rw [hread] at hle; exact hle
        | ok found => rw [hread] at hle; exact hle
    · exact Nat.le_refl _
  next => exact Nat.le_refl _

theorem length_remainder_readLineEnd_le (t : Text) :
    (remainder id (readLineEnd t)).length ≤ t.length := by
  have hcomment : (if (dropInlineBlanks t).head? == some (CodePoint.ofChar '#') then
      (dropInlineBlanks t).dropWhile (!isNewline ·) else t).length ≤ t.length := by
    split
    · exact Nat.le_trans (length_dropWhile_le _ _) (length_dropInlineBlanks_le t)
    · exact Nat.le_refl _
  unfold readLineEnd
  dsimp only
  generalize (if (dropInlineBlanks t).head? == some (CodePoint.ofChar '#') then
      (dropInlineBlanks t).dropWhile (!isNewline ·) else t) = u at hcomment
  have hblanks := length_dropInlineBlanks_le u
  split
  next => exact Nat.zero_le _
  next c rest hdrop =>
    rw [hdrop, List.length_cons] at hblanks
    split
    · exact Nat.le_trans (Nat.le_of_succ_le hblanks) hcomment
    · exact hcomment

def readAfterKey (t : Text) : Except Stuck (Option Text × Text) :=
  match readAssignment (dropInlineBlanks t) with
  | .error stuck => .error stuck
  | .ok (value, t) => (readLineEnd t).map (value, ·)

theorem length_remainder_readAfterKey_le (t : Text) :
    (remainder Prod.snd (readAfterKey t)).length ≤ t.length := by
  have hassignment := length_remainder_readAssignment_le (dropInlineBlanks t)
  have hblanks := length_dropInlineBlanks_le t
  unfold readAfterKey
  cases hread : readAssignment (dropInlineBlanks t) with
  | error stuck =>
    rw [hread] at hassignment
    exact Nat.le_trans hassignment hblanks
  | ok found =>
    obtain ⟨value, u⟩ := found
    rw [hread] at hassignment
    have hle := Nat.le_trans (Nat.le_trans (length_remainder_readLineEnd_le u) hassignment) hblanks
    dsimp only
    cases hend : readLineEnd u with
    | error stuck => rw [hend] at hle; exact hle
    | ok after => rw [hend] at hle; exact hle

def readBinding (t : Text) : Except Stuck (Binding × Text) :=
  match readKey (dropExport t) with
  | .error stuck => .error stuck
  | .ok (key, t) => (readAfterKey t).map fun (value, t) => ((key, value), t)

def skipLine (t : Text) : Text := (t.dropWhile (!isNewline ·)).drop 1

def nextBinding (t : Text) : Option Binding × Text :=
  match readBinding t with
  | .ok (binding, after) => (some binding, after)
  | .error stuck => (none, skipLine stuck)

theorem length_skipLine_lt {stuck t : Text} (h : stuck.length ≤ t.length) (ht : t ≠ []) :
    (skipLine stuck).length < t.length := by
  have hpos := List.length_pos_iff.2 ht
  have hle := length_dropWhile_le (!isNewline ·) stuck
  unfold skipLine
  rw [List.length_drop]
  omega

theorem length_nextBinding_lt {t : Text} (ht : t ≠ []) : (nextBinding t).2.length < t.length := by
  have hexport := length_dropExport_le t
  unfold nextBinding readBinding
  cases hkey : readKey (dropExport t) with
  | error stuck =>
    rw [eq_of_readKey_error hkey]
    exact length_skipLine_lt hexport ht
  | ok found =>
    obtain ⟨key, u⟩ := found
    have hlt := Nat.lt_of_lt_of_le (length_lt_of_readKey hkey) hexport
    have hle := Nat.le_trans (length_remainder_readAfterKey_le u) (Nat.le_of_lt hlt)
    dsimp only
    cases hafter : readAfterKey u with
    | error stuck =>
      rw [hafter] at hle
      exact length_skipLine_lt hle ht
    | ok result =>
      have := length_remainder_readAfterKey_le u
      rw [hafter] at this
      exact Nat.lt_of_le_of_lt this hlt

def bindings (t : Text) : List Binding :=
  match _h : t.dropWhile CodePoint.isBlank with
  | [] => []
  | c :: rest =>
    let step := nextBinding (c :: rest)
    step.1.toList ++ bindings step.2
termination_by t.length
decreasing_by
  have hle := length_dropWhile_le CodePoint.isBlank t
  rw [_h] at hle
  exact Nat.lt_of_lt_of_le (length_nextBinding_lt (List.cons_ne_nil c rest)) hle

end NodePanel.EnvFile
