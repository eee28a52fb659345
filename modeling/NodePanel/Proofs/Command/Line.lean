import NodePanel.Command.Invocation

/-!
Command lines that say which command they mean. Flags in front of the name of a command change
nothing about what it is asked for. Words behind the name are its operands unless they could be
switches, and behind two dashes all words are.
-/
namespace NodePanel

namespace Arguments

/-- The words of a line without switches, and the operands that they are. -/
inductive Words : List Text → List Text → Prop where
  | done : Words [] []
  | mark (operands : List Text) : Words (endMark :: operands) operands
  | word {t : Text} {line operands : List Text} (hword : looksLikeSwitch t = false)
    (h : Words line operands) : Words (t :: line) (t :: operands)

private theorem ne_endMark {t : Text} (h : looksLikeSwitch t = false) : t ≠ endMark := by
  rintro rfl
  contradiction

theorem Words.ofList_eq {known : List Switch} {line operands : List Text} (h : Words line operands) :
    ofList known true line = .ok ⟨[], operands⟩ := by
  induction h with
  | done => rfl
  | mark operands => rw [ofList, if_pos rfl]
  | word hword h ih =>
    rw [ofList, if_neg (ne_endMark hword), if_neg (by simp [hword]), if_pos rfl, ih]
    rfl

private theorem ofList_switch {known : List Switch} {argument : Text}
    {switches : List (Text × Option Text)} (hmark : argument ≠ endMark)
    (hlooks : looksLikeSwitch argument = true)
    (hread : Reading.ofArgument known argument = .ok (.complete switches)) (mixed : Bool)
    (rest : List Text) :
    ofList known mixed (argument :: rest) = (ofList known mixed rest).map (addSwitches switches) := by
  rw [ofList, if_neg hmark, if_pos hlooks, hread]

end Arguments

namespace Invocation

open Arguments

/-- What can stand in front of the name of a command and does not ask for anything else. -/
def flags : List Text := ["-v", "--verbose", "--debug"].map Text.ofString

def IsFlag (switch : Text × Option Text) : Prop :=
  switch.1 = verboseSwitch.name ∨ switch.1 = debugSwitch.name

variable {front : List Text} (hfront : ∀ word ∈ front, word ∈ flags)

include hfront

private theorem exists_ofList_flags {rest : List Text} {operands : List Text}
    (hrest : Arguments.ofList (.help :: generalSwitches) false rest = .ok ⟨[], operands⟩) :
    ∃ switches, Arguments.ofList (.help :: generalSwitches) false (front ++ rest) =
        .ok ⟨switches, operands⟩ ∧ ∀ switch ∈ switches, IsFlag switch := by
  induction front with
  | nil => exact ⟨[], hrest, nofun⟩
  | cons word front ih =>
    obtain ⟨hword, hfront⟩ := List.forall_mem_cons.1 hfront
    obtain ⟨switches, hswitches, hflags⟩ := ih hfront
    have hread : ∃ name, IsFlag (name, none) ∧ word ≠ endMark ∧ looksLikeSwitch word = true ∧
        Reading.ofArgument (.help :: generalSwitches) word = .ok (.complete [(name, none)]) := by
      simp only [flags, List.map_cons, List.map_nil, List.mem_cons, List.not_mem_nil,
        or_false] at hword
      rcases hword with rfl | rfl | rfl
      · exact ⟨verboseSwitch.name, .inl rfl, by decide, rfl, rfl⟩
      · exact ⟨verboseSwitch.name, .inl rfl, by decide, rfl, rfl⟩
      · exact ⟨debugSwitch.name, .inr rfl, by decide, rfl, rfl⟩
    obtain ⟨name, hname, hmark, hlooks, hread⟩ := hread
    refine ⟨(name, none) :: switches, ?_, List.forall_mem_cons.2 ⟨hname, hflags⟩⟩
    rw [List.cons_append, ofList_switch hmark hlooks hread, hswitches]
    rfl

theorem exists_ofLine_eq (name : CommandName) (rest : List Text) :
    ∃ verbose debug, ofLine (front ++ name.text :: rest) = ⟨verbose, debug, purposeOf name rest⟩ := by
  have hname : name.text ≠ endMark ∧ looksLikeSwitch name.text = false ∧
      CommandName.ofText? name.text = some name := by
    cases name <;> decide
  obtain ⟨hmark, hlooks, hread⟩ := hname
  have hrest : Arguments.ofList (.help :: generalSwitches) false (name.text :: rest) =
      .ok ⟨[], name.text :: rest⟩ := by
    rw [Arguments.ofList, if_neg hmark, if_neg (by simp [hlooks]), if_neg (by decide)]
  obtain ⟨switches, hswitches, hflags⟩ := exists_ofList_flags hfront hrest
  have hcommandless : commandless? ⟨switches, name.text :: rest⟩ = none := by
    have hhas {text : Text} (htext : text ≠ verboseSwitch.name ∧ text ≠ debugSwitch.name) :
        (Arguments.mk switches (name.text :: rest)).has text = false := by
      refine List.any_eq_false.2 fun switch hswitch heq => ?_
      rcases hflags switch hswitch with h | h
      · exact htext.1 ((beq_iff_eq.1 heq).symm.trans h)
      · exact htext.2 ((beq_iff_eq.1 heq).symm.trans h)
    unfold commandless?
    rw [hhas (by decide), hhas (by decide), hhas (by decide)]
    rfl
  refine ⟨Arguments.has ⟨switches, name.text :: rest⟩ verboseSwitch.name,
    Arguments.has ⟨switches, name.text :: rest⟩ debugSwitch.name, ?_⟩
  unfold ofLine select
  rw [hswitches]
  simp only [bind, Except.bind, hcommandless, hread, pure, Except.pure]

end Invocation

end NodePanel
