import NodePanel.Number.Numeral
import NodePanel.Record.Rule
import NodePanel.Text.Quoted

/-!
Hits as they are typed: the number of the user, a colon, the number of the rule.
-/
namespace NodePanel.Hit

inductive TypingError where
  | noColon (t : Text)
  | noIntegers (t : Text)
deriving DecidableEq

def TypingError.message : TypingError → Text
  | noColon t => Text.ofString "expected UID:RULE_ID, got " ++ Text.quoted t
  | noIntegers t => Text.ofString "expected integers in " ++ Text.quoted t

/-- A hit from a text; the first colon is the one between the numbers. -/
def ofText (t : Text) : Except TypingError Hit :=
  match Text.cut? ':' t with
  | none => .error (.noColon t)
  | some (before, after) =>
    match Text.toInt? before, Text.toInt? after with
    | some uid, some ruleId => .ok ⟨uid, ruleId⟩
    | _, _ => .error (.noIntegers t)

end NodePanel.Hit
