import Acceptor.Proofs.Automaton.EditSequence
import Acceptor.Proofs.Run.Iteration

/-!
# What an edit changes about a check

The check of an input on an edited automaton goes the way it went before, since no edit takes a
transition away (`Automaton.Keeps`). It ends where it ended unless the new transition leads on from
there, and its outcome is the same unless it is decided by the flag that was set
(`check_of_attempt`). So an edit matters to few inputs only, which `Edit.Concerns` singles out, and
`Edit.Effect` says what it does to the verdict on these.
-/

namespace Acceptor

/-- The inputs, with their verdicts before, that an edit may change the verdict on: those that got
stuck where the new transition leaves, and those that lead to the state whose flag is set. The empty
input is decided by a setting and not by a flag. -/
def Edit.Concerns (model : Automaton) (symbols : List Symbol) (before : Verdict) : Edit → Prop
  | .addState _ => False
  | .addTransition source _ symbol =>
    before.state = source ∧ ∃ index, before.outcome = .stuck index symbol
  | .setAccepting id _ => symbols ≠ [] ∧ model.destination? symbols = some id

/-- What an edit does to the verdict on an input that it concerns. -/
def Edit.Effect (before after : Verdict) : Edit → Prop
  | .addState _ => False
  | .addTransition source target symbol =>
    before.outcome = .stuck before.steps.length symbol ∧
      before.steps ++ [⟨source, symbol, target⟩] <+: after.steps
  | .setAccepting _ accepting =>
    after.state = before.state ∧ after.steps = before.steps ∧
      (after.accepted = true ↔ accepting = true)

namespace Automaton

variable {model after : Automaton} {emptyAccepts : Bool} {symbols left : List Symbol}
  {verdict : Verdict}

/-- A new state has no say in whether another one accepts. -/
theorem isAccepting_addState {id : StateId} (known : id ∈ model.ids) (accepting : Bool) :
    (model.addState accepting).1.isAccepting id = model.isAccepting id := by
  obtain ⟨state, -, -, found⟩ := state?_of_mem_ids known
  have kept : (model.addState accepting).1.state? id = some state := by
    rw [state?, addState, List.find?_append, ← state?, found]
    rfl
  rw [isAccepting, isAccepting, kept, found]

/-- Setting a flag changes whether this one state accepts. -/
theorem isAccepting_setAccepting (valid : model.Valid) {id : StateId} {accepting : Bool}
    (set : model.setAccepting id accepting = .ok after) (other : StateId) :
    after.isAccepting other = if other = id then accepting else model.isAccepting other := by
  obtain ⟨known, states⟩ := states_setAccepting valid set
  have sought : ((fun state : State => state.id == other) ∘ fun state =>
      if state.id = id then { state with accepting } else state) =
        fun state => state.id == other := by
    funext state
    rw [Function.comp_apply]
    split <;> rfl
  rw [isAccepting, isAccepting, state?, state?, states, List.find?_map, sought]
  cases found : model.states.find? (·.id == other) with
  | none =>
    have different : other ≠ id := by
      rintro rfl
      simp [← state?_isSome_iff, state?, found] at known
    rw [if_neg different]
    rfl
  | some state =>
    have same : state.id = other := by simpa using List.find?_some found
    subst same
    rw [Option.map_some, Option.any_some, Option.any_some]
    split <;> rfl

/-- A new transition gives its key a target and leaves the other keys theirs. -/
theorem target?_addTransition {source target : StateId} {symbol : Symbol}
    (added : model.addTransition source target symbol = .ok after) (state : StateId)
    (read : Symbol) :
    after.target? state read =
      if state = source ∧ read = symbol then some target else model.target? state read := by
  obtain ⟨-, -, -, ⟨taken, rfl⟩ | ⟨free, rfl⟩⟩ := addTransition_eq_ok_iff.mp added
  · split
    · next here =>
      obtain ⟨rfl, rfl⟩ := here
      exact taken
    · rfl
  · rw [target?, List.find?_append, Option.map_or, ← target?]
    split
    · next here =>
      obtain ⟨rfl, rfl⟩ := here
      simp [free, Transition.key]
    · next elsewhere =>
      have other : ¬(source = state ∧ symbol = read) := by
        rintro ⟨rfl, rfl⟩
        exact elsewhere ⟨rfl, rfl⟩
      simp [Transition.key, other]

/-- No transition is lost by adding one. -/
theorem keeps_of_addTransition {source target : StateId} {symbol : Symbol}
    (added : model.addTransition source target symbol = .ok after) : after.Keeps model where
  initial := by
    obtain ⟨-, -, -, ⟨-, rfl⟩ | ⟨-, rfl⟩⟩ := addTransition_eq_ok_iff.mp added <;> rfl
  targets found := by
    rw [target?_addTransition added]
    split
    · next here =>
      obtain ⟨rfl, rfl⟩ := here
      obtain ⟨-, -, -, ⟨taken, -⟩ | ⟨free, -⟩⟩ := addTransition_eq_ok_iff.mp added
      · exact taken.symm.trans found
      · exact absurd (free.symm.trans found) nofun
    · exact found

/-- Where an automaton keeps the targets of another and leads no further, an input is read along the
same transitions to the same state. -/
theorem Concluded.check_of_keeps (concluded : model.Concluded emptyAccepts symbols verdict left)
    (keeps : after.Keeps model) (blocked : after.Blocked verdict.state left) :
    after.check emptyAccepts symbols = { verdict with
      outcome :=
        if symbols.isEmpty then verdict.outcome
        else after.outcomeAt verdict.state verdict.steps.length left } := by
  have journey := concluded.journey.of_keeps keeps
  rw [← keeps.initial] at journey
  rw [check_of_journey journey blocked]
  split
  · next empty => rw [concluded.outcome, if_pos empty]
  · rfl

theorem outcomeAt_congr {state : StateId} {consumed : Nat}
    (accepts : left = [] → after.isAccepting state = model.isAccepting state) :
    after.outcomeAt state consumed left = model.outcomeAt state consumed left := by
  cases left with
  | nil => rw [outcomeAt, outcomeAt, accepts rfl]
  | cons symbol rest => rfl

/-- If besides the state where it ends accepts as before, the verdict is the same. -/
theorem Concluded.check_same (concluded : model.Concluded emptyAccepts symbols verdict left)
    (keeps : after.Keeps model) (blocked : after.Blocked verdict.state left)
    (accepts : symbols ≠ [] → left = [] →
      after.isAccepting verdict.state = model.isAccepting verdict.state) :
    after.check emptyAccepts symbols = verdict := by
  have outcome := concluded.outcome
  rw [concluded.check_of_keeps keeps blocked]
  split
  · rfl
  · next filled =>
    rw [if_neg filled] at outcome
    rw [outcomeAt_congr (accepts (by simpa using filled)), ← outcome]

/-- A check gets stuck exactly at the first symbol that its journey leaves. -/
theorem Concluded.stuck_iff (concluded : model.Concluded emptyAccepts symbols verdict left)
    {index : Nat} {symbol : Symbol} :
    verdict.outcome = .stuck index symbol ↔
      index = verdict.steps.length ∧ ∃ rest, left = symbol :: rest := by
  have outcome := concluded.outcome
  have read := concluded.journey.symbols_eq
  cases left with
  | nil =>
    have decided : verdict.outcome ≠ .stuck index symbol := by
      rw [outcome, outcomeAt]
      split_ifs <;> exact nofun
    simp [decided]
  | cons first rest =>
    rw [if_neg (by simp [read])] at outcome
    rw [outcome, outcomeAt, Outcome.stuck.injEq, eq_comm (a := index)]
    simp

/-- Where a new transition leads on from the end of a check, the new check goes on with it. -/
theorem Concluded.prefix_of_continued {target : StateId} {symbol : Symbol} {rest : List Symbol}
    (concluded : model.Concluded emptyAccepts symbols verdict (symbol :: rest))
    (keeps : after.Keeps model) (continued : after.target? verdict.state symbol = some target) :
    verdict.steps ++ [⟨verdict.state, symbol, target⟩] <+:
      (after.check emptyAccepts symbols).steps := by
  obtain ⟨left, onward, blocked, -⟩ := after.exists_journey_of_checkFrom target 0 rest
  have whole := (concluded.journey.of_keeps keeps).append (.move continued onward)
  rw [← keeps.initial] at whole
  rw [check_of_journey whole blocked]
  exact ⟨_, List.append_assoc _ _ _⟩

/-- A new state leaves the verdict as it is. -/
theorem Concluded.check_addState (valid : model.Valid)
    (concluded : model.Concluded emptyAccepts symbols verdict left) (accepting : Bool) :
    (model.addState accepting).1.check emptyAccepts symbols = verdict := by
  have known := concluded.journey.last_known valid valid.initialKnown
  exact concluded.check_same ⟨rfl, id⟩ concluded.blocked
    fun _ _ => isAccepting_addState known accepting

/-- A new transition leaves the verdict as it is, or leads on where the input got stuck. -/
theorem Concluded.check_addTransition
    (concluded : model.Concluded emptyAccepts symbols verdict left) {source target : StateId}
    {symbol : Symbol} (added : model.addTransition source target symbol = .ok after) :
    (¬(verdict.state = source ∧ ∃ index, verdict.outcome = .stuck index symbol) →
        after.check emptyAccepts symbols = verdict) ∧
      ((verdict.state = source ∧ ∃ index, verdict.outcome = .stuck index symbol) →
        verdict.outcome = .stuck verdict.steps.length symbol ∧
          verdict.steps ++ [⟨source, symbol, target⟩] <+:
            (after.check emptyAccepts symbols).steps) := by
  have keeps := keeps_of_addTransition added
  have states : after.states = model.states := by
    obtain ⟨-, -, -, ⟨-, rfl⟩ | ⟨-, rfl⟩⟩ := addTransition_eq_ok_iff.mp added <;> rfl
  constructor
  · intro apart
    refine concluded.check_same keeps ?_ fun _ _ => ?_
    · intro first here
      rw [target?_addTransition added, if_neg, concluded.blocked first here]
      rintro ⟨there, rfl⟩
      obtain ⟨rest, rfl⟩ := List.head?_eq_some_iff.mp here
      exact apart ⟨there, _, concluded.stuck_iff.mpr ⟨rfl, rest, rfl⟩⟩
    · rw [isAccepting, isAccepting, state?, state?, states]
  · rintro ⟨rfl, index, stuck⟩
    obtain ⟨rfl, rest, rfl⟩ := concluded.stuck_iff.mp stuck
    refine ⟨stuck, concluded.prefix_of_continued keeps ?_⟩
    rw [target?_addTransition added, if_pos ⟨rfl, rfl⟩]

/-- A flag decides the inputs that lead to its state, and leaves the verdict on others as it is. -/
theorem Concluded.check_setAccepting (valid : model.Valid)
    (concluded : model.Concluded emptyAccepts symbols verdict left) {id : StateId}
    {accepting : Bool} (set : model.setAccepting id accepting = .ok after) :
    (¬(symbols ≠ [] ∧ model.destination? symbols = some id) →
        after.check emptyAccepts symbols = verdict) ∧
      ((symbols ≠ [] ∧ model.destination? symbols = some id) →
        (after.check emptyAccepts symbols).state = verdict.state ∧
          (after.check emptyAccepts symbols).steps = verdict.steps ∧
          ((after.check emptyAccepts symbols).accepted = true ↔ accepting = true)) := by
  have shape := sameShape_of_setAccepting set
  have targets (source : StateId) (symbol : Symbol) :
      after.target? source symbol = model.target? source symbol := by
    rw [target?, target?, shape.transitions]
  have keeps : after.Keeps model := ⟨shape.initial, (targets _ _).trans⟩
  have blocked : after.Blocked verdict.state left :=
    fun symbol here => (targets _ symbol).trans (concluded.blocked symbol here)
  have leads := concluded.destination?_eq
  constructor
  · intro apart
    refine concluded.check_same keeps blocked fun nonempty read => ?_
    rw [isAccepting_setAccepting valid set, if_neg]
    rintro rfl
    exact apart ⟨nonempty, by rw [leads, read]; rfl⟩
  · rintro ⟨nonempty, there⟩
    rw [leads] at there
    cases left with
    | cons symbol rest => cases there
    | nil =>
      obtain rfl := Option.some.inj there
      rw [concluded.check_of_keeps keeps blocked]
      refine ⟨rfl, rfl, ?_⟩
      rw [if_neg (by simpa using nonempty), outcomeAt, isAccepting_setAccepting valid set,
        if_pos rfl]
      cases accepting <;> simp [Verdict.accepted]

/-- An edit leaves the verdict on an input as it is unless it concerns this input, and then it does
no more than this to it. -/
theorem check_of_attempt (valid : model.Valid) (emptyAccepts : Bool) (symbols : List Symbol)
    {edit : Edit} (edited : model.attempt edit = .ok after) :
    (¬edit.Concerns model symbols (model.check emptyAccepts symbols) →
        after.check emptyAccepts symbols = model.check emptyAccepts symbols) ∧
      (edit.Concerns model symbols (model.check emptyAccepts symbols) →
        edit.Effect (model.check emptyAccepts symbols) (after.check emptyAccepts symbols)) := by
  obtain ⟨left, concluded⟩ := model.exists_concluded_check emptyAccepts symbols
  cases edit with
  | addState accepting =>
    obtain rfl := Except.ok.inj edited
    exact ⟨fun _ => concluded.check_addState valid accepting, False.elim⟩
  | addTransition source target symbol => exact concluded.check_addTransition edited
  | setAccepting id accepting => exact concluded.check_setAccepting valid edited

/-- A way that leads back to the room lets an input go on that got stuck there, and leaves the
verdict on one that did not. -/
theorem check_of_attempt_corridor :
    corridor.Valid ∧ ∃ after, corridor.attempt (.addTransition (-1) (-1) "in") = .ok after ∧
      Edit.Concerns corridor ["in", "in", "out"] (corridor.check true ["in", "in", "out"])
        (.addTransition (-1) (-1) "in") ∧
      (corridor.check true ["in", "in", "out"]).steps = [⟨7, "in", -1⟩] ∧
      [⟨7, "in", -1⟩, ⟨-1, "in", -1⟩] <+: (after.check true ["in", "in", "out"]).steps ∧
      ¬Edit.Concerns corridor ["in", "out"] (corridor.check true ["in", "out"])
        (.addTransition (-1) (-1) "in") ∧
      after.check true ["in", "out"] = corridor.check true ["in", "out"] := by
  have edited : corridor.attempt (.addTransition (-1) (-1) "in") = .ok { corridor with
      transitions := corridor.transitions ++ [⟨-1, "in", -1⟩] } := rfl
  have stuck := check_of_attempt valid_corridor true ["in", "in", "out"] edited
  have finished := check_of_attempt valid_corridor true ["in", "out"] edited
  have concerned : Edit.Concerns corridor ["in", "in", "out"]
      (corridor.check true ["in", "in", "out"]) (.addTransition (-1) (-1) "in") := ⟨rfl, 1, rfl⟩
  have apart : ¬Edit.Concerns corridor ["in", "out"] (corridor.check true ["in", "out"])
      (.addTransition (-1) (-1) "in") := fun concerned => absurd concerned.1 (by decide)
  exact ⟨valid_corridor, _, edited, concerned, rfl, (stuck.2 concerned).2, apart, finished.1 apart⟩

end Automaton

end Acceptor
