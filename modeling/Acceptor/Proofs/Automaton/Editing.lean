import Acceptor.Proofs.Automaton.Canonical
import Acceptor.Proofs.Automaton.Fresh

/-!
# What edits preserve

`Orderly` automata are valid and canonical, so nothing about them is lost when they are written.
The empty automaton is orderly, and every edit of an orderly automaton that is not refused leaves
an orderly one: a new state takes the next number and a new label, a new transition brings its
symbol into the alphabet, and the accepting flags matter to neither property.
-/

namespace Acceptor.Automaton

/-- An automaton that is valid and canonical. -/
structure Orderly (model : Automaton) : Prop extends Valid model, Canonical model

/-- Two automata that differ at most in which of their states accept. -/
structure SameShape (left right : Automaton) : Prop where
  ids : left.ids = right.ids
  labels : left.labels = right.labels
  alphabet : left.alphabet = right.alphabet
  transitions : left.transitions = right.transitions
  initial : left.initial = right.initial

variable {model after : Automaton}

theorem orderly_empty : Automaton.empty.Orderly where
  hasStates := by decide
  idsDistinct := by decide
  initialKnown := by decide
  labelsUsable := by decide
  alphabetUsable := by decide
  symbolsUsable := by decide
  sourcesKnown := by decide
  targetsKnown := by decide
  keysDistinct := by decide
  idsNumbered := by decide
  labelsDistinct := by decide
  alphabetDistinct := by decide
  symbolsListed := by decide

/-- Which states accept does not matter for whether an automaton is valid. -/
theorem Valid.of_sameShape (valid : model.Valid) (shape : SameShape after model) :
    after.Valid where
  hasStates := by
    have lengths := congrArg List.length shape.ids
    simp only [ids, List.length_map] at lengths
    exact List.ne_nil_of_length_pos (lengths ▸ List.length_pos_of_ne_nil valid.hasStates)
  idsDistinct := shape.ids ▸ valid.idsDistinct
  initialKnown := shape.ids ▸ shape.initial ▸ valid.initialKnown
  labelsUsable := by
    intro state member
    have labelled : state.label ∈ model.labels := shape.labels ▸ List.mem_map_of_mem member
    obtain ⟨original, known, same⟩ := List.mem_map.mp labelled
    exact same ▸ valid.labelsUsable original known
  alphabetUsable := shape.alphabet ▸ valid.alphabetUsable
  symbolsUsable := shape.transitions ▸ valid.symbolsUsable
  sourcesKnown := shape.ids ▸ shape.transitions ▸ valid.sourcesKnown
  targetsKnown := shape.ids ▸ shape.transitions ▸ valid.targetsKnown
  keysDistinct := shape.transitions ▸ valid.keysDistinct

/-- Which states accept does not matter for whether an automaton is canonical. -/
theorem Canonical.of_sameShape (canonical : model.Canonical) (shape : SameShape after model) :
    after.Canonical where
  idsNumbered := by
    have lengths := congrArg List.length shape.ids
    simp only [ids, List.length_map] at lengths
    rw [shape.ids, lengths]
    exact canonical.idsNumbered
  labelsDistinct := shape.labels ▸ canonical.labelsDistinct
  alphabetDistinct := shape.alphabet ▸ canonical.alphabetDistinct
  symbolsListed := shape.alphabet ▸ shape.transitions ▸ canonical.symbolsListed

/-- Setting an accepting flag leaves all else as it is. -/
theorem sameShape_of_setAccepting {id : StateId} {accepting : Bool}
    (set : model.setAccepting id accepting = .ok after) : SameShape after model := by
  unfold setAccepting at set
  obtain ⟨state, -, set⟩ := bind_eq_ok_iff.mp set
  split at set
  · obtain rfl := pure_eq_ok_iff.mp set
    exact ⟨rfl, rfl, rfl, rfl, rfl⟩
  · obtain rfl := pure_eq_ok_iff.mp set
    refine ⟨?_, ?_, rfl, rfl, rfl⟩
    · simp only [ids, List.map_map]
      refine List.map_congr_left fun other _ => ?_
      simp only [Function.comp]
      split <;> rfl
    · simp only [labels, List.map_map]
      refine List.map_congr_left fun other _ => ?_
      simp only [Function.comp]
      split <;> rfl

theorem Orderly.setAccepting (orderly : model.Orderly) {id : StateId} {accepting : Bool}
    (set : model.setAccepting id accepting = .ok after) : after.Orderly :=
  have shape := sameShape_of_setAccepting set
  ⟨orderly.toValid.of_sameShape shape, orderly.toCanonical.of_sameShape shape⟩

theorem mem_withSymbol {alphabet : List Symbol} {symbol other : Symbol} :
    other ∈ withSymbol alphabet symbol ↔ other ∈ alphabet ∨ other = symbol := by
  unfold withSymbol
  split
  · next listed =>
    rw [List.contains_iff_mem] at listed
    exact ⟨.inl, fun there => there.elim id fun same => same ▸ listed⟩
  · simp

theorem nodup_withSymbol {alphabet : List Symbol} (nodup : alphabet.Nodup) (symbol : Symbol) :
    (withSymbol alphabet symbol).Nodup := by
  unfold withSymbol
  split
  · exact nodup
  · next absent =>
    rw [← List.concat_eq_append]
    exact nodup.concat (by simpa using absent)

/-- A valid automaton stays valid with a new transition. -/
theorem Valid.addTransition (valid : model.Valid) {source target : StateId} {symbol : Symbol}
    (added : model.addTransition source target symbol = .ok after) : after.Valid := by
  obtain ⟨sourceKnown, targetKnown, usable, ⟨-, rfl⟩ | ⟨free, rfl⟩⟩ :=
    addTransition_eq_ok_iff.mp added
  · exact valid
  · have extended {property : Transition → Prop}
        (holds : ∀ transition ∈ model.transitions, property transition)
        (new : property ⟨source, symbol, target⟩) :
        ∀ transition ∈ model.transitions ++ [⟨source, symbol, target⟩], property transition := by
      simpa [or_imp, forall_and] using ⟨holds, new⟩
    refine ⟨valid.hasStates, valid.idsDistinct, valid.initialKnown, valid.labelsUsable, ?_,
      extended valid.symbolsUsable usable, extended valid.sourcesKnown sourceKnown,
      extended valid.targetsKnown targetKnown, ?_⟩
    · intro other member
      rcases mem_withSymbol.mp member with listed | rfl
      · exact valid.alphabetUsable other listed
      · exact usable
    · have absent := target?_eq_none_iff.mp free
      rw [List.map_append, List.map_singleton, ← List.concat_eq_append]
      exact valid.keysDistinct.concat absent

/-- A canonical automaton stays canonical with a new transition. -/
theorem Canonical.addTransition (canonical : model.Canonical) {source target : StateId}
    {symbol : Symbol} (added : model.addTransition source target symbol = .ok after) :
    after.Canonical := by
  obtain ⟨-, -, -, ⟨-, rfl⟩ | ⟨-, rfl⟩⟩ := addTransition_eq_ok_iff.mp added
  · exact canonical
  · refine ⟨canonical.idsNumbered, canonical.labelsDistinct,
      nodup_withSymbol canonical.alphabetDistinct symbol, ?_⟩
    intro transition member
    rcases List.mem_append.mp member with earlier | new
    · exact mem_withSymbol.mpr (.inl (canonical.symbolsListed transition earlier))
    · obtain rfl := List.mem_singleton.mp new
      exact mem_withSymbol.mpr (.inr rfl)

theorem Orderly.addTransition (orderly : model.Orderly) {source target : StateId} {symbol : Symbol}
    (added : model.addTransition source target symbol = .ok after) : after.Orderly :=
  ⟨orderly.toValid.addTransition added, orderly.toCanonical.addTransition added⟩

/-- The greatest identifier of a canonical automaton is the number of its states. -/
theorem Canonical.maxId_eq (canonical : model.Canonical) (hasStates : model.states ≠ []) :
    model.maxId = model.states.length := by
  have positive := List.length_pos_of_ne_nil hasStates
  have greatest : model.ids.max? = some (model.states.length : Int) := by
    rw [canonical.idsNumbered, List.max?_eq_some_iff]
    constructor
    · refine List.mem_map.mpr ⟨model.states.length - 1, List.mem_range.mpr (by omega), ?_⟩
      change ((model.states.length - 1 : Nat) : Int) + 1 = model.states.length
      omega
    · intro id member
      obtain ⟨index, inside, rfl⟩ := List.mem_map.mp member
      have bound := List.mem_range.mp inside
      change (index : Int) + 1 ≤ model.states.length
      omega
  rw [maxId, greatest, Option.getD_some]

/-- A canonical automaton stays canonical with a new state. -/
theorem Canonical.addState (canonical : model.Canonical) (hasStates : model.states ≠ [])
    (accepting : Bool) : (model.addState accepting).1.Canonical where
  idsNumbered := by
    have length : (model.addState accepting).1.states.length = model.states.length + 1 := by
      simp [Automaton.addState]
    rw [ids_addState, length, List.range_succ, List.map_append, ← canonical.idsNumbered,
      canonical.maxId_eq hasStates, List.map_singleton]
  labelsDistinct := by
    rw [labels_addState, ← List.concat_eq_append]
    exact canonical.labelsDistinct.concat (model.freshLabel_not_mem_labels _)
  alphabetDistinct := canonical.alphabetDistinct
  symbolsListed := canonical.symbolsListed

theorem Orderly.addState (orderly : model.Orderly) (accepting : Bool) :
    (model.addState accepting).1.Orderly :=
  ⟨orderly.toValid.addState accepting, orderly.toCanonical.addState orderly.hasStates accepting⟩

end Acceptor.Automaton
