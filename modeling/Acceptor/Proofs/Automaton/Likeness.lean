import Acceptor.Automaton.Edit
import Acceptor.Proofs.Automaton.Validity
import Acceptor.Run.Verdict
import Mathlib.Tactic.SplitIfs

/-!
# Automata that are the same up to the order of transitions

Whatever is asked of an automaton depends on its transitions as on a table: the target of a key, and
not the place where it stands. So automata that are the same give the same verdicts, are refused the
same edits for the same reasons, and are made into automata that are the same again. What may differ
is what lists the transitions, and only in its order.
-/

namespace Acceptor.Automaton

variable {left right : Automaton}

theorem Same.refl (model : Automaton) : model.Same model :=
  ⟨rfl, rfl, .refl _, rfl⟩

theorem Same.symm (same : left.Same right) : right.Same left :=
  ⟨same.states.symm, same.alphabet.symm, same.transitions.symm, same.initial.symm⟩

theorem Same.trans {middle : Automaton} (first : left.Same middle) (second : middle.Same right) :
    left.Same right :=
  ⟨first.states.trans second.states, first.alphabet.trans second.alphabet,
    first.transitions.trans second.transitions, first.initial.trans second.initial⟩

/-- An automaton that is the same is the automaton itself with its transitions in another order. -/
theorem Same.exists_eq (same : left.Same right) :
    ∃ transitions, left.transitions.Perm transitions ∧
      right = { left with transitions := transitions } := by
  obtain ⟨states, alphabet, transitions, initial⟩ := same
  refine ⟨right.transitions, transitions, ?_⟩
  cases right
  simp_all

/-- Two automata are the same as two others exactly if those are the same, pair by pair. -/
theorem Same.congr {left' right' : Automaton} (first : left.Same left')
    (second : right.Same right') : left.Same right ↔ left'.Same right' :=
  ⟨fun same => (first.symm.trans same).trans second,
    fun same => (first.trans same).trans second.symm⟩

theorem Valid.of_same (valid : left.Valid) (same : left.Same right) : right.Valid := by
  obtain ⟨transitions, order, rfl⟩ := same.exists_eq
  refine ⟨valid.hasStates, valid.idsDistinct, valid.initialKnown, valid.labelsUsable,
    valid.alphabetUsable, ?_, ?_, ?_, ?_⟩
  · exact fun transition member => valid.symbolsUsable transition (order.mem_iff.mpr member)
  · exact fun transition member => valid.sourcesKnown transition (order.mem_iff.mpr member)
  · exact fun transition member => valid.targetsKnown transition (order.mem_iff.mpr member)
  · exact (order.map Transition.key).nodup_iff.mp valid.keysDistinct

/-- No lookup depends on the order of the transitions. -/
theorem Same.target?_eq (same : left.Same right) (valid : left.Valid) (source : StateId)
    (symbol : Symbol) : left.target? source symbol = right.target? source symbol := by
  refine Option.ext fun target => ?_
  rw [target?_eq_some_iff valid.keysDistinct, target?_eq_some_iff (valid.of_same same).keysDistinct]
  exact same.transitions.mem_iff

theorem Same.isAccepting_eq (same : left.Same right) (id : StateId) :
    left.isAccepting id = right.isAccepting id := by
  rw [isAccepting, isAccepting, state?, state?, same.states]

theorem checkFrom_congr
    (targets : ∀ source symbol, left.target? source symbol = right.target? source symbol)
    (accepting : ∀ id, left.isAccepting id = right.isAccepting id) (current : StateId)
    (consumed : Nat) (symbols : List Symbol) :
    left.checkFrom current consumed symbols = right.checkFrom current consumed symbols := by
  induction symbols generalizing current consumed with
  | nil => rw [checkFrom, checkFrom, accepting]
  | cons symbol rest inductionHypothesis =>
    simp only [checkFrom, targets, inductionHypothesis]

/-- A verdict depends on the initial state, on the targets of the keys and on which states
accept. -/
theorem check_congr (initial : left.initial = right.initial)
    (targets : ∀ source symbol, left.target? source symbol = right.target? source symbol)
    (accepting : ∀ id, left.isAccepting id = right.isAccepting id) (emptyAccepts : Bool)
    (symbols : List Symbol) :
    left.check emptyAccepts symbols = right.check emptyAccepts symbols := by
  cases symbols with
  | nil => rw [check, check, checkEmpty, checkEmpty, initial]
  | cons symbol rest => rw [check, check, checkFrom_congr targets accepting, initial] <;> nofun

/-- Automata that are the same give the same verdicts. -/
theorem Same.check_eq (same : left.Same right) (valid : left.Valid) (emptyAccepts : Bool)
    (symbols : List Symbol) :
    left.check emptyAccepts symbols = right.check emptyAccepts symbols :=
  check_congr same.initial (same.target?_eq valid) same.isAccepting_eq emptyAccepts symbols

/-- A new state is the same one under the same identifier. -/
theorem Same.addState (same : left.Same right) (accepting : Bool) :
    (left.addState accepting).1.Same (right.addState accepting).1 ∧
      (left.addState accepting).2 = (right.addState accepting).2 := by
  obtain ⟨transitions, order, rfl⟩ := same.exists_eq
  exact ⟨⟨rfl, rfl, order, rfl⟩, rfl⟩

/-- A transition is added to both, behind all others, or refused by both. -/
theorem Same.addTransition (same : left.Same right) (valid : left.Valid) (source target : StateId)
    (symbol : Symbol) :
    Matching Same (left.addTransition source target symbol)
      (right.addTransition source target symbol) := by
  have targets := same.target?_eq valid source symbol
  obtain ⟨transitions, order, rfl⟩ := same.exists_eq
  unfold Automaton.addTransition
  rw [← targets]
  refine .bind_same fun sourceState _ => .bind_same fun _ _ => .bind_same fun _ _ => ?_
  cases left.target? source symbol with
  | none => exact .ok ⟨rfl, rfl, order.append_right _, rfl⟩
  | some existing =>
    dsimp only
    split_ifs with installed
    · exact .ok same
    · exact .bind_same fun existingState _ => .error _

theorem Same.setAccepting (same : left.Same right) (id : StateId) (accepting : Bool) :
    Matching Same (left.setAccepting id accepting) (right.setAccepting id accepting) := by
  obtain ⟨transitions, order, rfl⟩ := same.exists_eq
  unfold Automaton.setAccepting
  refine .bind_same fun current _ => ?_
  split_ifs with unchanged
  · exact .ok same
  · exact .ok ⟨rfl, rfl, order, rfl⟩

end Acceptor.Automaton
