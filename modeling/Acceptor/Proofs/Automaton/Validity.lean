import Acceptor.Automaton.Build
import Acceptor.Proofs.Success
import Mathlib.Data.List.Nodup

/-!
# What the check of an automaton admits

`Automaton.Valid` is exactly what the check of an automaton made from its parts lets through
(`valid_iff_ofParts`), so a statement about valid automata is one about all automata that can be
made.
-/

namespace Acceptor

theorem requireLiteral_eq_ok_iff {subject text : String} :
    requireLiteral subject text = .ok () ↔ literalFault? text = none := by
  unfold requireLiteral
  split <;> simp [*]

namespace Automaton

variable {model : Automaton}

theorem requireState_eq_ok_iff {id : StateId} :
    model.requireState id = .ok () ↔ id ∈ model.ids := by
  unfold requireState contains
  split <;> simp_all

/-- An identifier is known exactly if some state is found under it. -/
theorem state?_isSome_iff {id : StateId} : (model.state? id).isSome ↔ id ∈ model.ids := by
  simp [state?, ids, List.find?_isSome]

theorem state?_of_mem_ids {id : StateId} (known : id ∈ model.ids) :
    ∃ state ∈ model.states, state.id = id ∧ model.state? id = some state := by
  obtain ⟨state, found⟩ := Option.isSome_iff_exists.mp (state?_isSome_iff.mpr known)
  have same := List.find?_some (p := fun state : State => state.id == id) found
  exact ⟨state, List.mem_of_find?_eq_some found, eq_of_beq same, found⟩

/-- A target is found exactly for the transitions, where no key has two of them. -/
theorem target?_eq_some_iff {source target : StateId} {symbol : Symbol}
    (keysDistinct : (model.transitions.map Transition.key).Nodup) :
    model.target? source symbol = some target ↔ ⟨source, symbol, target⟩ ∈ model.transitions := by
  unfold target?
  constructor
  · intro found
    obtain ⟨transition, search, rfl⟩ := Option.map_eq_some_iff.mp found
    have member := List.mem_of_find?_eq_some search
    have key : transition.key = (source, symbol) := by simpa using List.find?_some search
    obtain ⟨rfl, rfl⟩ := Prod.mk.inj key
    exact member
  · intro member
    have present : (model.transitions.find? (·.key == (source, symbol))).isSome := by
      rw [List.find?_isSome]
      exact ⟨_, member, beq_self_eq_true _⟩
    obtain ⟨transition, search⟩ := Option.isSome_iff_exists.mp present
    have key : transition.key = (source, symbol) := by simpa using List.find?_some search
    have same : transition = ⟨source, symbol, target⟩ :=
      List.inj_on_of_nodup_map keysDistinct (List.mem_of_find?_eq_some search) member key
    rw [search, same]
    rfl

/-- The check passes an automaton on if its states, texts and transitions are in order. -/
theorem checked_eq_ok_iff {result : Automaton} :
    model.checked = .ok result ↔ result = model ∧ model.states ≠ [] ∧ model.ids.Nodup ∧
      model.initial ∈ model.ids ∧ (∀ state ∈ model.states, literalFault? state.label = none) ∧
      (∀ symbol ∈ model.alphabet, literalFault? symbol = none) ∧
      ∀ transition ∈ model.transitions, literalFault? transition.symbol = none ∧
        transition.source ∈ model.ids ∧ transition.target ∈ model.ids := by
  unfold checked
  simp only [refuseIf_eq_ok_iff, check_eq_ok_iff, pure_eq_ok_iff, forM_eq_ok_iff,
    requireLiteral_eq_ok_iff, requireState_eq_ok_iff, List.isEmpty_iff, Decidable.not_not]
  constructor
  · rintro ⟨hasStates, idsDistinct, initialKnown, labels, alphabet, transitions, rfl⟩
    exact ⟨rfl, hasStates, idsDistinct, initialKnown, labels, alphabet, transitions⟩
  · rintro ⟨rfl, hasStates, idsDistinct, initialKnown, labels, alphabet, transitions⟩
    exact ⟨hasStates, idsDistinct, initialKnown, labels, alphabet, transitions, rfl⟩

/-- The check passes on exactly the valid automata, once no key has two transitions. -/
theorem checked_eq_ok_iff_valid (keysDistinct : (model.transitions.map Transition.key).Nodup)
    {result : Automaton} : model.checked = .ok result ↔ result = model ∧ model.Valid := by
  rw [checked_eq_ok_iff]
  refine and_congr_right fun _ => ?_
  constructor
  · rintro ⟨hasStates, idsDistinct, initialKnown, labels, alphabet, transitions⟩
    exact ⟨hasStates, idsDistinct, initialKnown, labels, alphabet,
      fun transition member => (transitions transition member).1,
      fun transition member => (transitions transition member).2.1,
      fun transition member => (transitions transition member).2.2, keysDistinct⟩
  · intro valid
    exact ⟨valid.hasStates, valid.idsDistinct, valid.initialKnown, valid.labelsUsable,
      valid.alphabetUsable, fun transition member => ⟨valid.symbolsUsable transition member,
        valid.sourcesKnown transition member, valid.targetsKnown transition member⟩⟩

end Automaton

namespace Transition

/-- Putting a transition in changes no key but its own. -/
theorem keys_put (table : List Transition) (transition : Transition) :
    (put table transition).map key =
      if transition.key ∈ table.map key then table.map key
      else table.map key ++ [transition.key] := by
  have present : table.any (·.key == transition.key) = true ↔ transition.key ∈ table.map key := by
    simp [List.any_eq_true, List.mem_map]
  unfold put
  split
  · next found =>
    rw [if_pos (present.mp found), List.map_map]
    refine List.map_congr_left fun entry _ => ?_
    by_cases same : entry.key = transition.key <;> simp [same]
  · next missing =>
    rw [if_neg fun member => missing (present.mpr member), List.map_append, List.map_singleton]

/-- A table has one entry for each key. -/
theorem keys_table_nodup (transitions : List Transition) :
    ((table transitions).map key).Nodup := by
  suffices ∀ start : List Transition, (start.map key).Nodup →
      ((transitions.foldl put start).map key).Nodup from this [] (by simp)
  induction transitions with
  | nil => exact fun start nodup => nodup
  | cons transition rest inductionHypothesis =>
    intro start nodup
    refine inductionHypothesis _ ?_
    rw [keys_put]
    split
    · exact nodup
    · next fresh => simpa [List.nodup_append] using ⟨nodup, by simpa using fresh⟩

/-- Transitions with distinct keys are their own table. -/
theorem table_of_nodup {transitions : List Transition} (nodup : (transitions.map key).Nodup) :
    table transitions = transitions := by
  suffices ∀ start : List Transition, ((start ++ transitions).map key).Nodup →
      transitions.foldl put start = start ++ transitions from this [] nodup
  clear nodup
  induction transitions with
  | nil => simp
  | cons transition rest inductionHypothesis =>
    intro start nodup
    have fresh : transition.key ∉ start.map key := by
      rw [List.map_append, List.nodup_append] at nodup
      intro member
      exact nodup.2.2 _ member _ (by simp) rfl
    have appended : put start transition = start ++ [transition] := by
      unfold put
      rw [if_neg]
      simpa [List.any_eq_true, List.mem_map] using fresh
    rw [List.foldl_cons, appended, inductionHypothesis _ (by simpa using nodup)]
    simp

end Transition

/-- The parts of an automaton are accepted exactly if it is valid, and then nothing about it is
changed. -/
theorem Automaton.valid_iff_ofParts {model : Automaton} :
    model.Valid ↔
      ofParts model.states model.alphabet model.transitions model.initial = .ok model := by
  unfold ofParts
  rw [checked_eq_ok_iff_valid (Transition.keys_table_nodup _)]
  constructor
  · intro valid
    rw [Transition.table_of_nodup valid.keysDistinct]
    exact ⟨rfl, valid⟩
  · rintro ⟨same, valid⟩
    rw [same]
    exact valid

/-- Every automaton made from parts is valid. -/
theorem Automaton.valid_of_ofParts {states : List State} {alphabet : List Symbol}
    {transitions : List Transition} {initial : StateId} {model : Automaton}
    (accepted : ofParts states alphabet transitions initial = .ok model) : model.Valid := by
  obtain ⟨rfl, valid⟩ :=
    (checked_eq_ok_iff_valid (Transition.keys_table_nodup transitions)).mp accepted
  exact valid

end Acceptor
