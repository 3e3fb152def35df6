import Acceptor.Proofs.Automaton.Building
import Mathlib.Data.List.Nodup

/-!
# Canonical automata

An automaton is canonical if nothing in it is lost when it is described by the labels of its
states: identifiers count from 1, labels and symbols are not repeated, and the alphabet has all
symbols. `Automaton.automaton_listing` says that such an automaton is the one its own description
stands for, and `Listing.Coherent.canonical` that descriptions stand for no other automata.
-/

namespace Acceptor

namespace Automaton

/-- Identifiers count from 1, labels and symbols are distinct, and all symbols are listed. -/
structure Canonical (model : Automaton) : Prop where
  idsNumbered :
    model.ids = (List.range model.states.length).map fun index : Nat => (index : Int) + 1
  labelsDistinct : model.labels.Nodup
  alphabetDistinct : model.alphabet.Nodup
  symbolsListed : ∀ transition ∈ model.transitions, transition.symbol ∈ model.alphabet

instance (model : Automaton) : Decidable model.Canonical :=
  decidable_of_iff
    (model.ids = ((List.range model.states.length).map fun index : Nat => (index : Int) + 1) ∧
      model.labels.Nodup ∧ model.alphabet.Nodup ∧
        ∀ transition ∈ model.transitions, transition.symbol ∈ model.alphabet)
    ⟨fun ⟨ids, labels, alphabet, symbols⟩ => ⟨ids, labels, alphabet, symbols⟩,
      fun canonical => ⟨canonical.idsNumbered, canonical.labelsDistinct,
        canonical.alphabetDistinct, canonical.symbolsListed⟩⟩

/-- The label under an identifier, empty if there is no such state. -/
def labelOf (model : Automaton) (id : StateId) : Label :=
  ((model.state? id).map State.label).getD ""

/-- The description of an automaton by the labels of its states. -/
def listing (model : Automaton) : Listing Label where
  states := model.labels
  alphabet := model.alphabet
  initial := model.labelOf model.initial
  accepting := model.acceptingStates.map State.label
  transitions := model.transitions.map fun transition =>
    (model.labelOf transition.source, transition.symbol, model.labelOf transition.target)

variable {model : Automaton}

theorem label_of_known {id : StateId} (known : id ∈ model.ids) :
    model.label id = .ok (model.labelOf id) := by
  obtain ⟨state, -, -, found⟩ := state?_of_mem_ids known
  simp [label, labelOf, Automaton.state, found, Except.map]

/-- The place of a known identifier among the states, and what stands there. -/
theorem place_of_known {id : StateId} (known : id ∈ model.ids) :
    ∃ (index : Nat) (bound : index < model.states.length),
      model.states[index].id = id ∧ model.labelOf id = model.states[index].label := by
  obtain ⟨state, member, same, found⟩ := state?_of_mem_ids known
  obtain ⟨index, bound, rfl⟩ := List.getElem_of_mem member
  exact ⟨index, bound, same, by simp [labelOf, found]⟩

theorem labelOf_mem_labels {id : StateId} (known : id ∈ model.ids) :
    model.labelOf id ∈ model.labels := by
  obtain ⟨index, bound, -, label⟩ := place_of_known known
  rw [label]
  exact List.mem_map_of_mem (List.getElem_mem bound)

/-- The label of a known state of a valid automaton can be written. -/
theorem Valid.labelOf_usable (valid : model.Valid) {id : StateId} (known : id ∈ model.ids) :
    literalFault? (model.labelOf id) = none := by
  obtain ⟨index, bound, -, label⟩ := place_of_known known
  rw [label]
  exact valid.labelsUsable _ (List.getElem_mem bound)

/-- Different labels belong to different states. -/
theorem state_of_label (labelsDistinct : model.labels.Nodup) {left right : State}
    (leftMember : left ∈ model.states) (rightMember : right ∈ model.states)
    (same : left.label = right.label) : left = right :=
  List.inj_on_of_nodup_map labelsDistinct leftMember rightMember same

/-- Distinct labels find a state at the place where its identifier stands. -/
theorem idxOf_labelOf (labelsDistinct : model.labels.Nodup) (idsDistinct : model.ids.Nodup)
    {id : StateId} (known : id ∈ model.ids) :
    model.labels.idxOf (model.labelOf id) = model.ids.idxOf id := by
  obtain ⟨index, bound, rfl, label⟩ := place_of_known known
  have labelHere := labelsDistinct.idxOf_getElem index (by simpa [labels] using bound)
  have idHere := idsDistinct.idxOf_getElem index (by simpa [ids] using bound)
  simp only [labels, ids, List.getElem_map] at labelHere idHere
  rw [label, labels, ids, labelHere, idHere]

namespace Canonical

theorem idsDistinct (canonical : model.Canonical) : model.ids.Nodup := by
  rw [canonical.idsNumbered]
  exact Listing.nodup_numbers _

/-- The identifiers of a canonical automaton are the numbers of its labels. -/
theorem number_labelOf (canonical : model.Canonical) {id : StateId} (known : id ∈ model.ids) :
    model.listing.number (model.labelOf id) = id := by
  have place := idxOf_labelOf canonical.labelsDistinct canonical.idsDistinct known
  have bound := List.idxOf_lt_length_of_mem known
  have here := List.getElem_idxOf bound
  simp only [canonical.idsNumbered, List.getElem_map, List.getElem_range] at here
  rw [Listing.number, listing, place, canonical.idsNumbered]
  exact here

/-- The states of a canonical automaton are those of its description, numbered. -/
theorem numberedStates_listing (canonical : model.Canonical) :
    model.listing.numberedStates = model.states := by
  apply List.ext_getElem
  · simp [Listing.numberedStates, listing, labels]
  · intro index bound bound'
    have id : model.states[index].id = (index : Int) + 1 := by
      have here := List.getElem_of_eq canonical.idsNumbered (i := index)
        (by simpa [ids] using bound')
      simpa [ids] using here
    have accepting : (model.acceptingStates.map State.label).contains model.states[index].label =
        model.states[index].accepting := by
      rw [Bool.eq_iff_iff, List.contains_iff_mem, List.mem_map]
      constructor
      · rintro ⟨state, member, same⟩
        obtain ⟨known, accepts⟩ := List.mem_filter.mp member
        rwa [← state_of_label canonical.labelsDistinct known (List.getElem_mem bound') same]
      · intro accepts
        exact ⟨_, List.mem_filter.mpr ⟨List.getElem_mem bound', accepts⟩, rfl⟩
    simp only [Listing.numberedStates, listing, labels, List.getElem_mapIdx, List.getElem_map,
      StateName.label, accepting, ← id]

/-- A canonical automaton is the one that its own description stands for. -/
theorem automaton_listing (canonical : model.Canonical) (valid : model.Valid) :
    model.listing.automaton = model := by
  have transitions : model.listing.transitions.map model.listing.numbered = model.transitions := by
    change (model.transitions.map fun transition => (model.labelOf transition.source,
      transition.symbol, model.labelOf transition.target)).map model.listing.numbered = _
    rw [List.map_map]
    refine (List.map_congr_left fun transition member => ?_).trans (List.map_id _)
    simp only [Function.comp, Listing.numbered, id,
      canonical.number_labelOf (valid.sourcesKnown transition member),
      canonical.number_labelOf (valid.targetsKnown transition member)]
  have initial : model.listing.number model.listing.initial = model.initial :=
    canonical.number_labelOf valid.initialKnown
  rw [Listing.automaton, canonical.numberedStates_listing, transitions, initial]
  rfl

/-- The description of a canonical automaton is coherent. -/
theorem coherent (canonical : model.Canonical) (valid : model.Valid) :
    model.listing.Coherent where
  hasStates := by simpa [listing, labels] using valid.hasStates
  statesDistinct := canonical.labelsDistinct
  labelsUsable := by
    intro label member
    obtain ⟨state, known, rfl⟩ := List.mem_map.mp member
    exact valid.labelsUsable state known
  alphabetUsable := valid.alphabetUsable
  initialListed := labelOf_mem_labels valid.initialKnown
  acceptingListed := by
    intro label member
    obtain ⟨state, accepting, rfl⟩ := List.mem_map.mp member
    exact List.mem_map_of_mem (List.mem_of_mem_filter accepting)
  sourcesListed := by
    intro described member
    obtain ⟨transition, known, rfl⟩ := List.mem_map.mp member
    exact labelOf_mem_labels (valid.sourcesKnown transition known)
  symbolsListed := by
    intro described member
    obtain ⟨transition, known, rfl⟩ := List.mem_map.mp member
    exact canonical.symbolsListed transition known
  targetsListed := by
    intro described member
    obtain ⟨transition, known, rfl⟩ := List.mem_map.mp member
    exact labelOf_mem_labels (valid.targetsKnown transition known)
  keysDistinct := by
    simp only [listing, List.map_map]
    refine List.Nodup.map_on (fun left leftMember right rightMember same => ?_)
      valid.keysDistinct.of_map
    obtain ⟨sources, symbols⟩ := Prod.mk.inj same
    have leftId := canonical.number_labelOf (valid.sourcesKnown left leftMember)
    have rightId := canonical.number_labelOf (valid.sourcesKnown right rightMember)
    have sameSource : left.source = right.source :=
      leftId.symm.trans ((congrArg model.listing.number sources).trans rightId)
    exact List.inj_on_of_nodup_map valid.keysDistinct leftMember rightMember
      (Prod.ext sameSource symbols)

end Canonical

end Automaton

/-- A coherent description without repeated symbols stands for a canonical automaton. -/
theorem Listing.Coherent.canonical {listing : Listing Label} (coherent : listing.Coherent)
    (alphabetDistinct : listing.alphabet.Nodup) : listing.automaton.Canonical where
  idsNumbered := by
    rw [Automaton.ids, Listing.automaton, Listing.ids_numberedStates]
    simp [Listing.numberedStates]
  labelsDistinct := by
    have labels : listing.automaton.labels = listing.states := by
      apply List.ext_getElem
      · simp [Automaton.labels, Listing.automaton, Listing.numberedStates]
      · intro index _ _
        simp [Automaton.labels, Listing.automaton, Listing.numberedStates, StateName.label]
    rw [labels]
    exact coherent.statesDistinct
  alphabetDistinct := alphabetDistinct
  symbolsListed := by
    intro transition member
    obtain ⟨described, listed, rfl⟩ := List.mem_map.mp member
    exact coherent.symbolsListed described listed

end Acceptor
