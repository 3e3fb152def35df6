import Acceptor.Automaton.Basic

/-!
# Toolkits

The page leaves its controls to a toolkit: whether a button answers, when a callback is made, what a
check box holds and what is selected. The page is built for any toolkit. What is relied on is that
nothing happens for a button that was not pressed (`Toolkit.Lawful`). Whether a press of a button
that is disabled by now is answered is left open. A toolkit that answers none of these and chooses
only what is offered is `Toolkit.Careful`; the toolkit of the program is one.
-/

namespace Acceptor.Page

/-- What a toolkit goes by when a button is built: whether it was pressed, whether the last page
showed it as disabled, and whether it is built as disabled now. -/
structure Press where
  pressed : Bool
  wasDisabled : Bool
  isDisabled : Bool
  deriving DecidableEq, Repr

/-- What a toolkit does with the controls of a page. -/
structure Toolkit where
  /-- A button answers that it was pressed. -/
  answers : Press → Bool
  /-- The callback of a button is made, given whether it was pressed and whether the last page
  showed it as disabled. -/
  calls : (pressed wasDisabled : Bool) → Bool
  /-- Callbacks are made before the page is built, and not where their buttons are. -/
  callsFirst : Bool
  /-- What a check box holds, given whether it is disabled, what it held and what was entered. -/
  ticks : (disabled held : Bool) → Option Bool → Bool
  /-- The state that is selected of some states, given the one selected before. -/
  selects : List StateId → StateId → StateId
  /-- The symbol that is chosen of some symbols, if one is, given the choice before. -/
  chooses : List Symbol → Option Symbol → Option Symbol

namespace Toolkit

/-- Nothing happens for a button that was not pressed. -/
structure Lawful (toolkit : Toolkit) : Prop where
  /-- A button answers only if it was pressed, -/
  pressed_of_answers : ∀ press, toolkit.answers press = true → press.pressed = true
  /-- and its callback is made only then. -/
  pressed_of_calls : ∀ pressed wasDisabled,
    toolkit.calls pressed wasDisabled = true → pressed = true

/-- No disabled button answers, and no symbol is chosen but one of those that are offered. -/
structure Careful (toolkit : Toolkit) : Prop where
  enabled_of_answers : ∀ press, toolkit.answers press = true → press.isDisabled = false
  mem_of_chooses : ∀ symbols before chosen,
    toolkit.chooses symbols before = some chosen → chosen ∈ symbols

/-- The toolkit of the program. A disabled button does not answer and a disabled check box keeps
what it holds; callbacks come first. A state or symbol stays selected as long as it exists, and
otherwise the first one is; without a chosen symbol there is none until one is chosen. -/
def standard : Toolkit where
  answers press := press.pressed && !press.isDisabled
  calls pressed _ := pressed
  callsFirst := true
  ticks disabled held entered := if disabled then held else entered.getD held
  selects ids selected := if ids.contains selected then selected else ids.head?.getD selected
  chooses symbols chosen := chosen.bind fun symbol =>
    if symbols.contains symbol then some symbol else symbols.head?

/-- A toolkit whose buttons answer to every press, disabled or not. -/
def obliging : Toolkit :=
  { standard with answers := Press.pressed }

theorem lawful_standard : standard.Lawful where
  pressed_of_answers _ answers := (Bool.and_eq_true_iff.mp answers).1
  pressed_of_calls _ _ calls := calls

theorem lawful_obliging : obliging.Lawful where
  pressed_of_answers _ answers := answers
  pressed_of_calls _ _ calls := calls

theorem careful_standard : standard.Careful where
  enabled_of_answers press answers := by
    have enabled : (!press.isDisabled) = true := (Bool.and_eq_true_iff.mp answers).2
    rwa [Bool.not_eq_true'] at enabled
  mem_of_chooses symbols before chosen chooses := by
    obtain ⟨symbol, -, kept⟩ := Option.bind_eq_some_iff.mp chooses
    split at kept
    · next offered =>
      obtain rfl := Option.some.inj kept
      exact List.contains_iff_mem.mp offered
    · exact List.mem_of_head? kept

end Toolkit

end Acceptor.Page
