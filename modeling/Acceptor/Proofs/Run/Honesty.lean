import Acceptor.Proofs.Run.Iteration
import Acceptor.Proofs.Run.LifeCycle

/-!
# What verdicts say is true

A rejection in a state that does not accept names such a state, and where the setting makes no
exception for the empty input, acceptance means that an input leads to an accepting state
(`Honest`). The verdicts of checks and of shown runs are honest but for one input (`honest_iff`):
where the setting refuses the empty input, its refusal names the initial state as one that does not
accept, whether it does or not.
-/

namespace Acceptor

/-- A verdict says the truth about an automaton. -/
structure Verdict.Honest (model : Automaton) (emptyAccepts : Bool) (symbols : List Symbol)
    (verdict : Verdict) : Prop where
  /-- A state that is named as not accepting does not accept, and the sentence names it. -/
  names : ∀ length, verdict.outcome = .notAccepting length →
    ∃ state ∈ model.states, verdict.state = state.id ∧ state.accepting = false ∧
      verdict.describe model =
        .ok ("String not accepted: finished in non-accepting state " ++ state.label)
  /-- Without the exception for the empty input, just what leads to an accepting state is
  accepted. -/
  decides : emptyAccepts = false → (verdict.accepted = true ↔
    ∃ state, model.destination? symbols = some state ∧ model.isAccepting state = true)

namespace Verdict

variable {model : Automaton} {emptyAccepts : Bool} {symbols : List Symbol} {verdict : Verdict}

/-- A known state that does not accept is named truly. -/
theorem names_of_not_accepting (known : verdict.state ∈ model.ids)
    (refuses : model.isAccepting verdict.state = false) {length : Nat}
    (outcome : verdict.outcome = .notAccepting length) :
    ∃ state ∈ model.states, verdict.state = state.id ∧ state.accepting = false ∧
      verdict.describe model =
        .ok ("String not accepted: finished in non-accepting state " ++ state.label) := by
  obtain ⟨state, member, same, found⟩ := Automaton.state?_of_mem_ids known
  refine ⟨state, member, same.symm, ?_, ?_⟩
  · simpa [Automaton.isAccepting, found] using refuses
  · rw [describe, outcome]
    simp [Automaton.label, Automaton.state, found, Except.map]

/-- The verdict that the transitions lead to is honest. -/
theorem honest_of_iterates (iterates : model.Iterates symbols verdict) :
    verdict.Honest model emptyAccepts symbols := by
  cases leads : model.destination? symbols with
  | none =>
    obtain ⟨symbol, -, stuck, -⟩ := iterates.breaksOff leads
    exact ⟨fun length refused => by simp [stuck] at refused,
      fun _ => by simp [accepted, stuck, leads]⟩
  | some state =>
    obtain ⟨-, same, outcome⟩ := iterates.arrives state leads
    cases accepting : model.isAccepting state with
    | true =>
      rw [accepting, if_pos rfl] at outcome
      exact ⟨fun length refused => by simp [outcome] at refused,
        fun _ => by simp [accepted, outcome, leads, accepting]⟩
    | false =>
      rw [accepting] at outcome
      refine ⟨fun length refused => ?_, fun _ => by simp [accepted, outcome, leads, accepting]⟩
      exact names_of_not_accepting iterates.within.state (same ▸ accepting) refused

/-- The verdict on the empty input is honest unless it refuses an initial state that accepts. -/
theorem honest_checkEmpty_iff (valid : model.Valid) :
    (model.checkEmpty emptyAccepts).Honest model emptyAccepts [] ↔
      ¬(emptyAccepts = false ∧ model.isAccepting model.initial = true) := by
  have leads : model.destination? [] = some model.initial := rfl
  constructor
  · rintro honest ⟨rfl, accepting⟩
    have accepted := (honest.decides rfl).mpr ⟨model.initial, leads, accepting⟩
    cases accepted
  · intro sound
    cases emptyAccepts with
    | true => exact ⟨nofun, nofun⟩
    | false =>
      have refuses : model.isAccepting model.initial = false := by simpa using sound
      refine ⟨fun length refused => ?_, fun _ => ?_⟩
      · exact names_of_not_accepting valid.initialKnown refuses refused
      · simp [accepted, Automaton.checkEmpty, leads, refuses]

end Verdict

namespace Automaton

/-- A shown run has no other verdict than the check of its input. -/
theorem verdict_of_afterSteps {model : Automaton} (valid : model.Valid) {emptyAccepts : Bool}
    {symbols : List Symbol} {steps : List RunStep} {verdict : Verdict}
    (decided : ((Playback.start model symbols emptyAccepts).afterSteps steps).verdict =
      some verdict) : verdict = model.check emptyAccepts symbols := by
  have tells := (Playback.foretold_start valid symbols emptyAccepts).coming rfl
  have phase := (Playback.phase_start tells).afterSteps tells steps
  cases phase with
  | underway _ undecided => exact absurd (undecided.symm.trans decided) nofun
  | completed _ foretold => exact Option.some.inj (decided.symm.trans foretold)
  | stopped _ undecided => exact absurd (undecided.symm.trans decided) nofun

/-- A shown run can be brought to its verdict. -/
theorem exists_steps_to_verdict {model : Automaton} (valid : model.Valid) (emptyAccepts : Bool)
    (symbols : List Symbol) :
    ∃ steps, ((Playback.start model symbols emptyAccepts).afterSteps steps).verdict =
      some (model.check emptyAccepts symbols) := by
  obtain ⟨silent, terminal, coming, silence, decides⟩ :=
    (Playback.foretold_start valid symbols emptyAccepts).coming rfl
  have pulled := Playback.rest_of_coming rfl coming silence decides
  obtain ⟨steps, same, -⟩ :=
    Playback.exists_steps_of_rest (Playback.start model symbols emptyAccepts)
  exact ⟨steps, by rw [← same, pulled]; rfl⟩

/-- The verdict of a check, and the one that a shown run comes to, is honest unless the input is
empty, the setting refuses it, and the initial state accepts. -/
theorem honest_iff {model : Automaton} (valid : model.Valid) (emptyAccepts : Bool)
    (symbols : List Symbol) :
    ((model.check emptyAccepts symbols).Honest model emptyAccepts symbols ↔
        ¬(symbols = [] ∧ emptyAccepts = false ∧ model.isAccepting model.initial = true)) ∧
      (∀ steps verdict,
        ((Playback.start model symbols emptyAccepts).afterSteps steps).verdict = some verdict →
          (verdict.Honest model emptyAccepts symbols ↔
            ¬(symbols = [] ∧ emptyAccepts = false ∧ model.isAccepting model.initial = true))) ∧
      ∃ steps verdict,
        ((Playback.start model symbols emptyAccepts).afterSteps steps).verdict = some verdict := by
  have checked : (model.check emptyAccepts symbols).Honest model emptyAccepts symbols ↔
      ¬(symbols = [] ∧ emptyAccepts = false ∧ model.isAccepting model.initial = true) := by
    cases symbols with
    | nil =>
      simp only [true_and]
      exact Verdict.honest_checkEmpty_iff valid
    | cons symbol rest =>
      have iterates := iterates_check valid emptyAccepts (List.cons_ne_nil symbol rest)
      simpa using Verdict.honest_of_iterates iterates
  refine ⟨checked, fun steps verdict decided => ?_, ?_⟩
  · rw [verdict_of_afterSteps valid decided]
    exact checked
  · obtain ⟨steps, decided⟩ := exists_steps_to_verdict valid emptyAccepts symbols
    exact ⟨steps, _, decided⟩

/-- The honest verdict on a walk through the corridor that ends in the hall, which does not
accept, and the run that shows it. -/
theorem honest_corridor : corridor.Valid ∧
    ((Playback.start corridor ["in", "out"] false).afterSteps (List.replicate 6 .next)).verdict =
      some (corridor.check false ["in", "out"]) ∧
    (corridor.check false ["in", "out"]).outcome = .notAccepting 2 ∧
      (corridor.check false ["in", "out"]).Honest corridor false ["in", "out"] := by
  have decided : ((Playback.start corridor ["in", "out"] false).afterSteps
      (List.replicate 6 .next)).verdict = some (corridor.check false ["in", "out"]) := rfl
  have honest := (honest_iff valid_corridor false ["in", "out"]).2.1 _ _ decided
  exact ⟨valid_corridor, decided, rfl, honest.mpr (by simp)⟩

/-- A single state that accepts from the start. -/
def doorway : Automaton where
  states := [⟨1, "S", true⟩]
  alphabet := ["A"]
  transitions := []
  initial := 1

/-- Refusing the empty input, the check and the shown run say that it finished in a non-accepting
state, and name one that accepts. -/
theorem dishonest_doorway : doorway.Valid ∧
    doorway.destination? [] = some 1 ∧ doorway.isAccepting 1 = true ∧
      doorway.check false [] = ⟨.notAccepting 0, 1, []⟩ ∧
      ((Playback.start doorway [] false).afterSteps [.next, .next]).verdict =
        some (doorway.check false []) ∧
      (doorway.check false []).describe doorway =
        .ok "String not accepted: finished in non-accepting state S" ∧
      ¬(doorway.check false []).Honest doorway false [] := by
  have accepted : ofParts doorway.states doorway.alphabet doorway.transitions
      doorway.initial = .ok doorway := rfl
  refine ⟨valid_of_ofParts accepted, rfl, rfl, rfl, rfl, by decide, fun honest => ?_⟩
  have accepts := (honest.decides rfl).mpr ⟨1, rfl, rfl⟩
  cases accepts

end Automaton

end Acceptor
