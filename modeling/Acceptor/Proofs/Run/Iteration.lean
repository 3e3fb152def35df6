import Acceptor.Proofs.Run.Naming
import Mathlib.Data.List.Chain

/-!
# Checks as iterated transitions

An input leads from the initial state along its transitions, as long as there are any
(`destination?`). The check of an input goes the same way, but it is a loop that stops at the first
symbol without a transition and records what it has passed. `Iterates` says what its verdict has to
be for this, and `iterates_check` that it is. The empty input is left out, since a setting decides
about it.
-/

namespace Acceptor

namespace Automaton

/-- The state that some symbols lead to from a state on, if each of them has a transition. -/
def destinationFrom? (model : Automaton) (state : StateId) (symbols : List Symbol) :
    Option StateId :=
  symbols.foldlM model.target? state

/-- The state that an input leads to from the initial state on. -/
def destination? (model : Automaton) (symbols : List Symbol) : Option StateId :=
  model.destinationFrom? model.initial symbols

/-- A verdict is the one that the transitions lead to, iterated along an input. -/
structure Iterates (model : Automaton) (symbols : List Symbol) (verdict : Verdict) : Prop where
  begins : ∀ step ∈ verdict.steps.head?, step.source = model.initial
  chained : verdict.steps.IsChain fun step next => step.target = next.source
  spells : verdict.steps.map Transition.symbol <+: symbols
  installed : ∀ step ∈ verdict.steps, step ∈ model.transitions
  /-- An input that leads somewhere is read to its end, and decided by the state it leads to. -/
  arrives : ∀ state, model.destination? symbols = some state →
    verdict.steps.map Transition.symbol = symbols ∧ verdict.state = state ∧
      verdict.outcome =
        if model.isAccepting state then .accepted else .notAccepting symbols.length
  /-- Any other input is read up to the end of its longest prefix that leads somewhere. -/
  breaksOff : model.destination? symbols = none →
    ∃ symbol, symbols[verdict.steps.length]? = some symbol ∧
      verdict.outcome = .stuck verdict.steps.length symbol ∧
      model.destination? (symbols.take verdict.steps.length) = some verdict.state ∧
      ∀ length, verdict.steps.length < length → model.destination? (symbols.take length) = none
  within : verdict.Within model
  described : ∃ sentence, verdict.describe model = .ok sentence
  traced : ∃ rows, verdict.trace model = .ok rows ∧ rows.length = verdict.steps.length ∧
    rows.IsChain fun row next => row.target = next.source

variable {model : Automaton}

theorem destinationFrom?_append (state : StateId) (earlier later : List Symbol) :
    model.destinationFrom? state (earlier ++ later) =
      (model.destinationFrom? state earlier).bind (model.destinationFrom? · later) :=
  List.foldlM_append

/-- Where the first symbol has no transition, an input leads nowhere. -/
theorem Blocked.destinationFrom?_eq_none {state : StateId} {symbol : Symbol} {rest : List Symbol}
    (blocked : model.Blocked state (symbol :: rest)) :
    model.destinationFrom? state (symbol :: rest) = none := by
  have missing : model.target? state symbol = none := blocked symbol rfl
  rw [destinationFrom?, List.foldlM_cons, missing]
  rfl

end Automaton

namespace Journey

variable {model : Automaton} {state last : StateId} {symbols left : List Symbol}
  {steps : List Transition}

/-- The symbols that a journey reads lead to its end. -/
theorem destinationFrom?_eq (journey : Journey model state symbols steps last left) :
    model.destinationFrom? state (steps.map Transition.symbol) = some last := by
  induction journey with
  | halt => rfl
  | move found onward inductionHypothesis =>
    rw [List.map_cons, Automaton.destinationFrom?, List.foldlM_cons, found]
    exact inductionHypothesis

/-- A journey takes transitions of its automaton. -/
theorem installed (valid : model.Valid)
    (journey : Journey model state symbols steps last left) :
    ∀ step ∈ steps, step ∈ model.transitions := by
  induction journey with
  | halt => exact nofun
  | move found onward inductionHypothesis =>
    have member := (Automaton.target?_eq_some_iff valid.keysDistinct).mp found
    exact List.forall_mem_cons.mpr ⟨member, inductionHypothesis⟩

theorem source_of_head (journey : Journey model state symbols steps last left) :
    ∀ step ∈ steps.head?, step.source = state := by
  cases journey with
  | halt => exact nofun
  | move found onward =>
    rintro step here
    obtain rfl := Option.some.inj here
    rfl

/-- Every transition of a journey starts where the one before it ends. -/
theorem isChain (journey : Journey model state symbols steps last left) :
    steps.IsChain fun step next => step.target = next.source := by
  induction journey with
  | halt => exact .nil
  | move found onward inductionHypothesis =>
    exact List.isChain_cons.mpr
      ⟨fun next here => (onward.source_of_head next here).symm, inductionHypothesis⟩

end Journey

namespace Automaton

variable {model : Automaton} {emptyAccepts : Bool} {symbols left : List Symbol}
  {verdict : Verdict}

/-- An input is read to its end exactly if it leads somewhere. -/
theorem Concluded.destination?_eq
    (concluded : model.Concluded emptyAccepts symbols verdict left) :
    model.destination? symbols = if left.isEmpty then some verdict.state else none := by
  have read := concluded.journey.destinationFrom?_eq
  have blocked := concluded.blocked
  rw [destination?, concluded.journey.symbols_eq, destinationFrom?_append, read, Option.bind_some]
  cases left with
  | nil => rfl
  | cons symbol rest => exact blocked.destinationFrom?_eq_none

/-- An input that leads somewhere is read to its end and decided there. -/
theorem Concluded.arrives (nonempty : symbols ≠ [])
    (concluded : model.Concluded emptyAccepts symbols verdict left) {state : StateId}
    (leads : model.destination? symbols = some state) :
    verdict.steps.map Transition.symbol = symbols ∧ verdict.state = state ∧
      verdict.outcome =
        if model.isAccepting state then .accepted else .notAccepting symbols.length := by
  have outcome := concluded.outcome
  rw [if_neg (by simpa using nonempty)] at outcome
  rw [concluded.destination?_eq] at leads
  cases left with
  | cons symbol rest => cases leads
  | nil =>
    obtain rfl := Option.some.inj leads
    have whole : verdict.steps.map Transition.symbol = symbols := by
      rw [concluded.journey.symbols_eq, List.append_nil]
    refine ⟨whole, rfl, ?_⟩
    rw [outcome, ← whole, List.length_map]
    rfl

/-- An input that leads nowhere is read up to its first symbol without a transition. -/
theorem Concluded.breaksOff (nonempty : symbols ≠ [])
    (concluded : model.Concluded emptyAccepts symbols verdict left)
    (nowhere : model.destination? symbols = none) :
    ∃ symbol, symbols[verdict.steps.length]? = some symbol ∧
      verdict.outcome = .stuck verdict.steps.length symbol ∧
      model.destination? (symbols.take verdict.steps.length) = some verdict.state ∧
      ∀ length, verdict.steps.length < length →
        model.destination? (symbols.take length) = none := by
  have outcome := concluded.outcome
  rw [if_neg (by simpa using nonempty)] at outcome
  rw [concluded.destination?_eq] at nowhere
  cases left with
  | nil => cases nowhere
  | cons symbol rest =>
    have cut := concluded.journey.symbols_eq
    have read := concluded.journey.destinationFrom?_eq
    have place : (verdict.steps.map Transition.symbol).length = verdict.steps.length :=
      List.length_map _
    refine ⟨symbol, ?_, outcome, ?_, fun length longer => ?_⟩
    · rw [cut, ← place, List.getElem?_append_right (Nat.le_refl _), Nat.sub_self]
      rfl
    · rw [cut, ← place, List.take_left]
      exact read
    · -- A longer prefix takes the symbol along, which leads nowhere from where the journey ends.
      obtain ⟨more, rfl⟩ := Nat.exists_eq_add_of_lt longer
      have blocked : model.Blocked verdict.state (symbol :: rest.take more) := concluded.blocked
      rw [cut, ← place, Nat.add_assoc, List.take_length_add_append, List.take_succ_cons,
        destination?, destinationFrom?_append, read, Option.bind_some]
      exact blocked.destinationFrom?_eq_none

end Automaton

namespace Verdict

variable {model : Automaton} {verdict : Verdict}

/-- Where every transition starts in the state that the one before it leads to, so does every row of
the trace, label for label. -/
theorem isChain_trace
    (chained : verdict.steps.IsChain fun step next => step.target = next.source) :
    (verdict.steps.mapIdx fun index step => row model (1 + index) step).IsChain
      fun row next => row.target = next.source := by
  rw [List.isChain_iff_getElem] at chained ⊢
  intro index bound
  rw [List.length_mapIdx] at bound
  rw [List.getElem_mapIdx, List.getElem_mapIdx]
  exact congrArg model.labelOf (chained index bound)

end Verdict

/-- The verdict on an input is the one that the transitions lead to, iterated along it. -/
theorem Automaton.iterates_check {model : Automaton} (valid : model.Valid) (emptyAccepts : Bool)
    {symbols : List Symbol} (nonempty : symbols ≠ []) :
    model.Iterates symbols (model.check emptyAccepts symbols) := by
  obtain ⟨left, concluded⟩ := model.exists_concluded_check emptyAccepts symbols
  have within := Verdict.within_check valid emptyAccepts symbols
  have chained := concluded.journey.isChain
  exact {
    begins := concluded.journey.source_of_head
    chained := chained
    spells := ⟨left, concluded.journey.symbols_eq.symm⟩
    installed := concluded.journey.installed valid
    arrives := fun _ leads => concluded.arrives nonempty leads
    breaksOff := concluded.breaksOff nonempty
    within := within
    described := within.exists_describe
    traced := ⟨_, within.trace, List.length_mapIdx, Verdict.isChain_trace chained⟩ }

/-- One step too many leads out of the corridor: the input is read up to this step. -/
theorem Automaton.iterates_corridor : corridor.Valid ∧ ["in", "out", "out"] ≠ [] ∧
    corridor.destination? ["in", "out", "out"] = none ∧
      corridor.Iterates ["in", "out", "out"]
        ⟨.stuck 2 "out", 7, [⟨7, "in", -1⟩, ⟨-1, "out", 7⟩]⟩ := by
  have nonempty : ["in", "out", "out"] ≠ [] := by decide
  exact ⟨valid_corridor, nonempty, rfl, iterates_check valid_corridor true nonempty⟩

end Acceptor
