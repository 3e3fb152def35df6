import Acceptor.Proofs.Automaton.Validity
import Acceptor.Run.Verdict

/-!
# Journeys through an automaton

A journey takes one transition for each symbol at the front of an input and leaves the rest. The
check of an input makes the longest journey from the initial state (`exists_concluded_check`), and
its verdict is decided by where this journey ends and by what it leaves.
-/

namespace Acceptor

/-- From a state, some transitions are taken along an input, up to a state where a rest is left. -/
inductive Journey (model : Automaton) :
    StateId → List Symbol → List Transition → StateId → List Symbol → Prop where
  | halt {state left} : Journey model state left [] state left
  | move {state symbol target rest steps last left}
      (found : model.target? state symbol = some target)
      (onward : Journey model target rest steps last left) :
      Journey model state (symbol :: rest) (⟨state, symbol, target⟩ :: steps) last left

namespace Automaton

/-- The states that some transitions lead through from the initial state on, with repetitions. -/
def visited (model : Automaton) (steps : List Transition) : List StateId :=
  model.initial :: steps.map Transition.target

/-- The state in which some transitions from the initial state on end. -/
def stateAfter (model : Automaton) (steps : List Transition) : StateId :=
  (steps.getLast?.map Transition.target).getD model.initial

/-- The outcome in a state after some symbols, with a rest whose first symbol leads nowhere. -/
def outcomeAt (model : Automaton) (state : StateId) (consumed : Nat) : List Symbol → Outcome
  | [] => if model.isAccepting state then .accepted else .notAccepting consumed
  | symbol :: _ => .stuck consumed symbol

/-- No transition leads on from a state along an input. -/
def Blocked (model : Automaton) (state : StateId) (left : List Symbol) : Prop :=
  ∀ symbol ∈ left.head?, model.target? state symbol = none

/-- An automaton starts where another one does and leads everywhere that it leads. -/
structure Keeps (after model : Automaton) : Prop where
  initial : after.initial = model.initial
  targets : ∀ {source symbol target}, model.target? source symbol = some target →
    after.target? source symbol = some target

/-- A verdict concludes the longest journey along an input from the initial state on. The setting
decides the outcome of the empty input, and the end of the journey that of every other one. -/
structure Concluded (model : Automaton) (emptyAccepts : Bool) (symbols : List Symbol)
    (verdict : Verdict) (left : List Symbol) : Prop where
  journey : Journey model model.initial symbols verdict.steps verdict.state left
  blocked : model.Blocked verdict.state left
  outcome : verdict.outcome =
    if symbols.isEmpty then (if emptyAccepts then .accepted else .notAccepting 0)
    else model.outcomeAt verdict.state verdict.steps.length left

variable {model : Automaton}

@[simp]
theorem visited_concat (steps : List Transition) (step : Transition) :
    model.visited (steps ++ [step]) = model.visited steps ++ [step.target] := by
  simp [visited]

@[simp]
theorem stateAfter_nil : model.stateAfter [] = model.initial := rfl

@[simp]
theorem stateAfter_concat (steps : List Transition) (step : Transition) :
    model.stateAfter (steps ++ [step]) = step.target := by
  simp [stateAfter]

/-- The state in which transitions end is the last one they lead through. -/
theorem stateAfter_mem_visited (steps : List Transition) :
    model.stateAfter steps ∈ model.visited steps := by
  rcases List.eq_nil_or_concat' steps with rfl | ⟨others, step, rfl⟩
  · exact List.mem_cons_self
  · rw [stateAfter_concat, visited_concat]
    exact List.mem_append_right _ List.mem_cons_self

end Automaton

namespace Journey

variable {model : Automaton} {state last : StateId} {symbols left : List Symbol}
  {steps : List Transition}

/-- The input of a journey is what its transitions read and what it leaves. -/
theorem symbols_eq (journey : Journey model state symbols steps last left) :
    symbols = steps.map Transition.symbol ++ left := by
  induction journey with
  | halt => rfl
  | move found onward inductionHypothesis => rw [inductionHypothesis]; rfl

/-- Every transition of a journey starts where the ones before it end, and is the one that the
automaton has for its symbol. -/
theorem source_eq (journey : Journey model state symbols steps last left)
    {done : List Transition} (reached : model.stateAfter done = state) {index : Nat}
    {step : Transition} (taken : steps[index]? = some step) :
    step.source = model.stateAfter (done ++ steps.take index) ∧
      model.target? step.source step.symbol = some step.target := by
  induction journey generalizing done index with
  | halt => cases taken
  | @move state symbol target rest steps last left found onward inductionHypothesis =>
    cases index with
    | zero =>
      obtain rfl := Option.some.inj taken
      exact ⟨by simp [reached], found⟩
    | succ index =>
      have moved := model.stateAfter_concat done ⟨state, symbol, target⟩
      have later := inductionHypothesis moved taken
      rwa [List.append_assoc] at later

/-- A journey ends in the state that its transitions lead to. -/
theorem last_eq (journey : Journey model state symbols steps last left)
    {done : List Transition} (reached : model.stateAfter done = state) :
    last = model.stateAfter (done ++ steps) := by
  induction journey generalizing done with
  | halt => rw [List.append_nil, reached]
  | @move state symbol target rest steps last left found onward inductionHypothesis =>
    have later := inductionHypothesis (model.stateAfter_concat done ⟨state, symbol, target⟩)
    rwa [List.append_assoc] at later

/-- A journey from a known state ends in a known state. -/
theorem last_known (valid : model.Valid) (known : state ∈ model.ids)
    (journey : Journey model state symbols steps last left) : last ∈ model.ids := by
  induction journey with
  | halt => exact known
  | move found onward inductionHypothesis =>
    have member := (Automaton.target?_eq_some_iff valid.keysDistinct).mp found
    exact inductionHypothesis (valid.targetsKnown _ member)

/-- A journey can be continued with what it leaves. -/
theorem append {further : List Transition} {final : StateId} {rest : List Symbol}
    (journey : Journey model state symbols steps last left)
    (onward : Journey model last left further final rest) :
    Journey model state symbols (steps ++ further) final rest := by
  induction journey with
  | halt => exact onward
  | move found _ inductionHypothesis => exact .move found (inductionHypothesis onward)

/-- A journey leads the same way through an automaton that keeps the targets. -/
theorem of_keeps {after : Automaton} (keeps : after.Keeps model)
    (journey : Journey model state symbols steps last left) :
    Journey after state symbols steps last left := by
  induction journey with
  | halt => exact .halt
  | move found _ inductionHypothesis => exact .move (keeps.targets found) inductionHypothesis

end Journey

namespace Automaton

variable {model : Automaton}

/-- The check of the rest of an input makes a journey as long as it can. -/
theorem exists_journey_of_checkFrom (current : StateId) (consumed : Nat) (symbols : List Symbol) :
    ∃ left, Journey model current symbols (model.checkFrom current consumed symbols).steps
        (model.checkFrom current consumed symbols).state left ∧
      model.Blocked (model.checkFrom current consumed symbols).state left ∧
      (model.checkFrom current consumed symbols).outcome =
        model.outcomeAt (model.checkFrom current consumed symbols).state
          (consumed + (model.checkFrom current consumed symbols).steps.length) left := by
  induction symbols generalizing current consumed with
  | nil => exact ⟨[], .halt, by simp [Blocked], rfl⟩
  | cons symbol rest inductionHypothesis =>
    unfold checkFrom
    cases found : model.target? current symbol with
    | none =>
      refine ⟨symbol :: rest, .halt, ?_, rfl⟩
      intro first here
      obtain rfl := Option.some.inj here
      exact found
    | some target =>
      obtain ⟨left, onward, blocked, outcome⟩ := inductionHypothesis target (consumed + 1)
      refine ⟨left, .move found onward, blocked, ?_⟩
      simp only [Verdict.after, List.length_cons]
      rw [outcome, Nat.add_assoc, Nat.add_comm 1]

/-- The check of an input concludes the longest journey from the initial state. -/
theorem exists_concluded_check (emptyAccepts : Bool) (symbols : List Symbol) :
    ∃ left, Concluded model emptyAccepts symbols (model.check emptyAccepts symbols) left := by
  cases symbols with
  | nil => exact ⟨[], .halt, by simp [Blocked], rfl⟩
  | cons symbol rest =>
    obtain ⟨left, journey, blocked, outcome⟩ :=
      exists_journey_of_checkFrom model.initial 0 (symbol :: rest)
    rw [Nat.zero_add] at outcome
    exact ⟨left, journey, blocked, outcome⟩

/-- The check of the rest of an input follows a journey along it to its end, where no transition
leads on. -/
theorem checkFrom_of_journey {state last : StateId} {symbols left : List Symbol}
    {steps : List Transition} (journey : Journey model state symbols steps last left)
    (blocked : model.Blocked last left) (consumed : Nat) :
    model.checkFrom state consumed symbols =
      ⟨model.outcomeAt last (consumed + steps.length) left, last, steps⟩ := by
  induction journey generalizing consumed with
  | @halt state left =>
    cases left with
    | nil => rfl
    | cons symbol rest =>
      have missing : model.target? state symbol = none := blocked symbol rfl
      rw [checkFrom, missing]
      rfl
  | move found onward inductionHypothesis =>
    rw [checkFrom, found]
    simp only [inductionHypothesis blocked, Verdict.after, List.length_cons]
    rw [Nat.add_assoc, Nat.add_comm 1]

/-- The check of an input follows a journey from the initial state to its end, where no transition
leads on. -/
theorem check_of_journey {last : StateId} {symbols left : List Symbol} {steps : List Transition}
    (journey : Journey model model.initial symbols steps last left)
    (blocked : model.Blocked last left) (emptyAccepts : Bool) :
    model.check emptyAccepts symbols =
      ⟨if symbols.isEmpty then (if emptyAccepts then .accepted else .notAccepting 0)
        else model.outcomeAt last steps.length left, last, steps⟩ := by
  cases symbols with
  | nil =>
    cases journey
    rfl
  | cons symbol rest =>
    have followed := checkFrom_of_journey journey blocked 0
    rw [Nat.zero_add] at followed
    exact followed

/-- An automaton for examples: two states with identifiers in no order, and a way to and fro. -/
def corridor : Automaton where
  states := [⟨7, "hall", false⟩, ⟨-1, "room", true⟩]
  alphabet := ["in", "out"]
  transitions := [⟨7, "in", -1⟩, ⟨-1, "out", 7⟩]
  initial := 7

theorem valid_corridor : corridor.Valid := by
  have accepted : ofParts corridor.states corridor.alphabet corridor.transitions
      corridor.initial = .ok corridor := rfl
  exact valid_of_ofParts accepted

end Automaton

end Acceptor
