import Acceptor.Proofs.Automaton.Fresh
import Mathlib.Order.Bounds.Defs

/-!
# The search for a label

The label of a new state is found by trying: the plain label first and then its numbered variants,
each of which is given up if some state has it. Nothing in a single turn says that there will be an
end. `settles_freshLabel` says that there is one after as many turns as there are states at most,
and that the search ends with the label that `freshLabel` names. It does so whatever labels the
states have, also where some of them are variants or stand twice.
-/

namespace Acceptor.Automaton

/-- A label that is tried for a new state, and the number of the variant to try after it. -/
structure Candidate where
  label : Label
  next : Nat
  deriving DecidableEq, Repr

/-- The plain label is tried first. -/
def Candidate.first (id : StateId) : Candidate :=
  ⟨plainLabel id, 1⟩

/-- One turn of the search: a label that some state has is given up for the next variant. -/
def Candidate.turn? (model : Automaton) (id : StateId) (candidate : Candidate) :
    Option Candidate :=
  if candidate.label ∈ model.labels then
    some ⟨numberedLabel id candidate.next, candidate.next + 1⟩
  else none

/-- The search from a candidate on ends after some turns with a label. -/
inductive Settles (model : Automaton) (id : StateId) : Nat → Candidate → Label → Prop where
  | free {candidate} (ends : candidate.turn? model id = none) :
      Settles model id 0 candidate candidate.label
  | taken {turns candidate next label} (turn : candidate.turn? model id = some next)
      (onward : Settles model id turns next label) : Settles model id (turns + 1) candidate label

variable {model : Automaton} {id : StateId}

theorem Candidate.turn?_of_free {candidate : Candidate} (free : candidate.label ∉ model.labels) :
    candidate.turn? model id = none :=
  if_neg free

theorem Candidate.turn?_of_taken {candidate : Candidate} (taken : candidate.label ∈ model.labels) :
    candidate.turn? model id = some ⟨numberedLabel id candidate.next, candidate.next + 1⟩ :=
  if_pos taken

/-- From a variant on, the search goes through the taken ones up to the first that is free. -/
theorem settles_numbered {turns tried : Nat}
    (taken : ∀ less, tried ≤ less → less < tried + turns → numberedLabel id less ∈ model.labels)
    (free : numberedLabel id (tried + turns) ∉ model.labels) :
    Settles model id turns ⟨numberedLabel id tried, tried + 1⟩
      (numberedLabel id (tried + turns)) := by
  induction turns generalizing tried with
  | zero => exact .free (Candidate.turn?_of_free free)
  | succ turns inductionHypothesis =>
    have here : numberedLabel id tried ∈ model.labels := taken tried (Nat.le_refl _) (by omega)
    have number : tried + 1 + turns = tried + (turns + 1) := by omega
    refine .taken (Candidate.turn?_of_taken here) ?_
    rw [← number] at taken free ⊢
    exact inductionHypothesis (fun less further => taken less (Nat.le_of_succ_le further)) free

/-- The search for a label ends after at most as many turns as there are states. -/
theorem settles_freshLabel (model : Automaton) (id : StateId) :
    ∃ turns ≤ model.states.length, Settles model id turns (.first id) (model.freshLabel id) := by
  obtain ⟨free, same⟩ | ⟨taken, number, positive, bound, same, free, before⟩ :=
    model.freshLabel_spec id
  · rw [same]
    exact ⟨0, Nat.zero_le _, .free (Candidate.turn?_of_free free)⟩
  · obtain ⟨turns, rfl⟩ := Nat.exists_eq_add_of_le positive
    rw [same]
    refine ⟨turns + 1, by omega, .taken (Candidate.turn?_of_taken taken) ?_⟩
    exact settles_numbered before free

/-- A state is what is added to an automaton as a new one. -/
structure IsNew (model : Automaton) (state : State) : Prop where
  /-- Its identifier is greater than every other one. -/
  above : ∀ known ∈ model.ids, known < state.id
  /-- The search for its label ends, and not after more turns than there are states. -/
  settles : ∃ turns ≤ model.states.length,
    Settles model state.id turns (.first state.id) state.label
  /-- It has the plain label, if no state has that one, -/
  plain : plainLabel state.id ∉ model.labels → state.label = plainLabel state.id
  /-- and otherwise the variant with the least number from 1 that no state has. -/
  numbered : plainLabel state.id ∈ model.labels → ∃ number,
    IsLeast {candidate | 1 ≤ candidate ∧ numberedLabel state.id candidate ∉ model.labels} number ∧
      state.label = numberedLabel state.id number

/-- The state that is added to an automaton is new to it. -/
theorem isNew_fresh (model : Automaton) (accepting : Bool) :
    model.IsNew ⟨model.maxId + 1, model.freshLabel (model.maxId + 1), accepting⟩ where
  above := fun _ known => Int.lt_add_one_of_le (le_maxId known)
  settles := model.settles_freshLabel _
  plain := by
    intro free
    obtain ⟨-, same⟩ | ⟨taken, -⟩ := model.freshLabel_spec (model.maxId + 1)
    · exact same
    · exact absurd taken free
  numbered := by
    intro taken
    obtain ⟨free, -⟩ | ⟨-, number, positive, -, same, free, before⟩ :=
      model.freshLabel_spec (model.maxId + 1)
    · exact absurd taken free
    · refine ⟨number, ⟨⟨positive, free⟩, fun candidate found => ?_⟩, same⟩
      exact Nat.le_of_not_lt fun less => found.2 (before candidate found.1 less)

/-- A valid automaton gets a new state behind its states and is otherwise as before, and all checks
are passed again. -/
theorem isNew_of_addState {model : Automaton} (valid : model.Valid) (accepting : Bool) :
    ∃ state after, model.addState accepting = (after, state.id) ∧ model.IsNew state ∧
      state.accepting = accepting ∧ after = { model with states := model.states ++ [state] } ∧
      ofParts after.states after.alphabet after.transitions after.initial = .ok after :=
  ⟨_, _, rfl, model.isNew_fresh accepting, rfl, rfl,
    valid_iff_ofParts.mp (valid.addState accepting)⟩

/-- Two states with the plain label that comes next, and one with its first variant. -/
def crowded : Automaton where
  states := [⟨-3, "Q7", false⟩, ⟨6, "Q7_1", true⟩, ⟨2, "Q7", false⟩]
  alphabet := ["a"]
  transitions := [⟨6, "a", -3⟩]
  initial := 2

/-- The second variant is the first that is free. -/
theorem isNew_of_addState_crowded :
    crowded.Valid ∧ ∃ after, crowded.addState true = (after, 7) ∧
      crowded.IsNew ⟨7, "Q7_2", true⟩ ∧ after.states = crowded.states ++ [⟨7, "Q7_2", true⟩] ∧
      ofParts after.states after.alphabet after.transitions after.initial = .ok after := by
  have valid : crowded.Valid := valid_iff_ofParts.mpr (by decide +kernel)
  have added : crowded.addState true =
      ({ crowded with states := crowded.states ++ [⟨7, "Q7_2", true⟩] }, 7) := by
    decide +kernel
  obtain ⟨state, after, same, new, -, rfl, checked⟩ := isNew_of_addState valid true
  obtain ⟨extended, -⟩ := Prod.mk.inj (same.symm.trans added)
  have states := List.append_cancel_left (congrArg Automaton.states extended)
  obtain rfl := (List.cons.inj states).1
  exact ⟨valid, _, same, new, rfl, checked⟩

end Acceptor.Automaton
