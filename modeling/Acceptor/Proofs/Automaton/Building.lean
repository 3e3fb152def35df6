import Acceptor.Proofs.Automaton.Validity

/-!
# What a description by names builds

`Listing.automaton` says directly which automaton a description stands for: its names numbered from
1 in the order of the list, its transitions in their order. `Listing.build_of_coherent` says that
building a coherent description, by numbering and installing step by step, gives that automaton.
-/

namespace Acceptor

namespace Automaton

variable {model : Automaton}

/-- A key is free exactly if no transition has it. -/
theorem target?_eq_none_iff {source : StateId} {symbol : Symbol} :
    model.target? source symbol = none ↔
      (source, symbol) ∉ model.transitions.map Transition.key := by
  simp [target?, List.mem_map]

theorem state_eq_ok_iff {id : StateId} {state : State} :
    model.state id = .ok state ↔ model.state? id = some state := by
  unfold Automaton.state
  split <;> simp_all

/-- A transition is added exactly between known states on a usable symbol. It is installed at the
end if its key is free, and changes nothing if it is there already. -/
theorem addTransition_eq_ok_iff {source target : StateId} {symbol : Symbol} {after : Automaton} :
    model.addTransition source target symbol = .ok after ↔
      source ∈ model.ids ∧ target ∈ model.ids ∧ literalFault? symbol = none ∧
        (model.target? source symbol = some target ∧ after = model ∨
          model.target? source symbol = none ∧ after = { model with
            alphabet := withSymbol model.alphabet symbol
            transitions := model.transitions ++ [⟨source, symbol, target⟩] }) := by
  unfold addTransition
  rw [← state?_isSome_iff, Option.isSome_iff_exists, bind_eq_ok_iff]
  simp only [state_eq_ok_iff, check_eq_ok_iff, requireState_eq_ok_iff, requireLiteral_eq_ok_iff,
    ← exists_and_right]
  refine exists_congr fun sourceState => and_congr_right fun _ => and_congr_right fun _ =>
    and_congr_right fun _ => ?_
  cases found : model.target? source symbol with
  | none => simp only [pure_eq_ok_iff, reduceCtorEq, false_and, false_or, true_and,
      eq_comm (a := after)]
  | some existing =>
    by_cases same : existing = target
    · simp only [same, if_true, pure_eq_ok_iff, reduceCtorEq, false_and, or_false, true_and,
        eq_comm (a := after)]
    · -- Another target is a conflict, whichever state it is named after.
      simp only [same, if_false, bind_eq_ok_iff, Option.some.injEq, false_and, reduceCtorEq,
        or_self, iff_false]
      rintro ⟨existingState, -, ⟨⟩⟩

end Automaton

namespace Listing

variable {Name : Type} [DecidableEq Name]

/-- The number of a listed name. -/
def number (listing : Listing Name) (name : Name) : StateId :=
  (listing.states.idxOf name : Int) + 1

/-- A described transition with numbers for names. -/
def numbered (listing : Listing Name) (described : Name × Symbol × Name) : Transition :=
  ⟨listing.number described.1, described.2.1, listing.number described.2.2⟩

omit [DecidableEq Name] in
theorem idxOf?_of_mem [BEq Name] [LawfulBEq Name] {names : List Name} {name : Name}
    (listed : name ∈ names) : names.idxOf? name = some (names.idxOf name) := by
  induction names with
  | nil => cases listed
  | cons first rest inductionHypothesis =>
    rw [List.idxOf?_cons, List.idxOf_cons]
    by_cases here : first = name
    · simp [here]
    · have there : name ∈ rest := by simpa [Ne.symm here] using listed
      simp [beq_eq_false_iff_ne.mpr here, inductionHypothesis there]

theorem idOf?_of_mem {listing : Listing Name} {name : Name} (listed : name ∈ listing.states) :
    listing.idOf? name = some (listing.number name) := by
  simp [idOf?, number, idxOf?_of_mem listed]

/-- Different listed names have different numbers. -/
theorem number_injective {listing : Listing Name} {left right : Name}
    (leftListed : left ∈ listing.states) (rightListed : right ∈ listing.states)
    (same : listing.number left = listing.number right) : left = right := by
  have places : listing.states.idxOf left = listing.states.idxOf right :=
    Int.ofNat.inj ((Int.add_left_inj 1).mp same)
  have leftBound := List.idxOf_lt_length_of_mem leftListed
  have rightBound := List.idxOf_lt_length_of_mem rightListed
  have leftHere := List.getElem_idxOf leftBound
  have rightHere := List.getElem_idxOf rightBound
  rw [← leftHere, ← rightHere]
  congr 1

variable [StateName Name]

/-- The automaton that a description stands for. -/
def automaton (listing : Listing Name) : Automaton where
  states := listing.numberedStates
  alphabet := listing.alphabet
  transitions := listing.transitions.map listing.numbered
  initial := listing.number listing.initial

/-- A description without contradictions: its names differ, it refers to listed names and symbols
only, all its texts are literals, and no source and symbol lead to two places. -/
structure Coherent (listing : Listing Name) : Prop where
  hasStates : listing.states ≠ []
  statesDistinct : listing.states.Nodup
  labelsUsable : ∀ name ∈ listing.states, literalFault? (StateName.label name) = none
  alphabetUsable : ∀ symbol ∈ listing.alphabet, literalFault? symbol = none
  initialListed : listing.initial ∈ listing.states
  acceptingListed : ∀ name ∈ listing.accepting, name ∈ listing.states
  sourcesListed : ∀ described ∈ listing.transitions, described.1 ∈ listing.states
  symbolsListed : ∀ described ∈ listing.transitions, described.2.1 ∈ listing.alphabet
  targetsListed : ∀ described ∈ listing.transitions, described.2.2 ∈ listing.states
  keysDistinct :
    (listing.transitions.map fun described => (described.1, described.2.1)).Nodup

/-- States are numbered from 1 in the order of the list. -/
theorem ids_numberedStates (listing : Listing Name) :
    listing.numberedStates.map State.id =
      (List.range listing.states.length).map fun index : Nat => (index : Int) + 1 := by
  apply List.ext_getElem
  · simp [numberedStates]
  · intro index _ _
    simp [numberedStates]

/-- Numbers in order differ. -/
theorem nodup_numbers (count : Nat) :
    ((List.range count).map fun index : Nat => (index : Int) + 1).Nodup := by
  rw [List.Nodup, List.pairwise_map]
  refine List.nodup_range.imp ?_
  intro left right different same
  exact different (Int.ofNat.inj ((Int.add_left_inj 1).mp same))

/-- The number of a listed name is the identifier of a state. -/
theorem number_mem_ids {listing : Listing Name} {name : Name} (listed : name ∈ listing.states) :
    listing.number name ∈ listing.numberedStates.map State.id := by
  rw [ids_numberedStates, List.mem_map]
  exact ⟨_, List.mem_range.mpr (List.idxOf_lt_length_of_mem listed), rfl⟩

theorem idOf_of_mem {listing : Listing Name} {name : Name} (listed : name ∈ listing.states) :
    listing.idOf name = .ok (listing.number name) := by
  simp [idOf, idOf?_of_mem listed]

/-- The described transitions keep their keys apart when names become numbers. -/
theorem Coherent.keys_numbered {listing : Listing Name} (coherent : listing.Coherent) :
    ((listing.transitions.map listing.numbered).map Transition.key).Nodup := by
  have apart := coherent.keysDistinct
  rw [List.Nodup, List.pairwise_map] at apart
  rw [List.Nodup, List.map_map, List.pairwise_map]
  refine apart.imp_of_mem ?_
  intro first second firstMember secondMember different same
  obtain ⟨sources, symbols⟩ := Prod.mk.inj same
  have names := number_injective (coherent.sourcesListed first firstMember)
    (coherent.sourcesListed second secondMember) sources
  exact different (Prod.ext names symbols)

/-- The described transitions are installed one after the other, each at the end. -/
theorem Coherent.installAll {listing : Listing Name} (coherent : listing.Coherent)
    {installed coming : List (Name × Symbol × Name)}
    (split : listing.transitions = installed ++ coming) :
    listing.installAll coming
        { listing.automaton with transitions := installed.map listing.numbered } =
      .ok listing.automaton := by
  induction coming generalizing installed with
  | nil =>
    rw [List.append_nil] at split
    simp [Listing.installAll, automaton, split]
  | cons described rest inductionHypothesis =>
    have member : described ∈ listing.transitions := by simp [split]
    have sourceListed := coherent.sourcesListed described member
    have targetListed := coherent.targetsListed described member
    have symbolListed := coherent.symbolsListed described member
    have apart := coherent.keys_numbered
    rw [split, List.map_append, List.map_append, List.nodup_append] at apart
    have free : Automaton.target?
        { listing.automaton with transitions := installed.map listing.numbered }
        (listing.number described.1) described.2.1 = none :=
      Automaton.target?_eq_none_iff.mpr fun taken =>
        apart.2.2 _ taken (listing.numbered described).key (by simp) rfl
    have kept : Automaton.withSymbol listing.alphabet described.2.1 = listing.alphabet := by
      simp [Automaton.withSymbol, symbolListed]
    have step := Automaton.addTransition_eq_ok_iff.mpr ⟨number_mem_ids sourceListed,
      number_mem_ids targetListed, coherent.alphabetUsable _ symbolListed, .inr ⟨free, rfl⟩⟩
    have extended : listing.transitions = (installed ++ [described]) ++ rest := by simp [split]
    have onward := inductionHypothesis extended
    rw [Listing.installAll, idOf_of_mem sourceListed, idOf_of_mem targetListed]
    simp only [bind, Except.bind, step]
    simpa [automaton, kept, numbered] using onward

/-- A coherent description stands for a valid automaton. -/
theorem Coherent.valid {listing : Listing Name} (coherent : listing.Coherent) :
    listing.automaton.Valid where
  hasStates := by simpa [automaton, numberedStates] using coherent.hasStates
  idsDistinct := by
    rw [Automaton.ids, automaton, ids_numberedStates]
    exact nodup_numbers _
  initialKnown := number_mem_ids coherent.initialListed
  labelsUsable := by
    intro state member
    obtain ⟨index, bound, rfl⟩ := List.mem_mapIdx.mp member
    exact coherent.labelsUsable _ (List.getElem_mem bound)
  alphabetUsable := coherent.alphabetUsable
  symbolsUsable := by
    intro transition member
    obtain ⟨described, listed, rfl⟩ := List.mem_map.mp member
    exact coherent.alphabetUsable _ (coherent.symbolsListed described listed)
  sourcesKnown := by
    intro transition member
    obtain ⟨described, listed, rfl⟩ := List.mem_map.mp member
    exact number_mem_ids (coherent.sourcesListed described listed)
  targetsKnown := by
    intro transition member
    obtain ⟨described, listed, rfl⟩ := List.mem_map.mp member
    exact number_mem_ids (coherent.targetsListed described listed)
  keysDistinct := coherent.keys_numbered

/-- The states of a coherent description pass the check on their own. -/
theorem Coherent.checked {listing : Listing Name} (coherent : listing.Coherent) :
    Automaton.checked { listing.automaton with transitions := [] } =
      .ok { listing.automaton with transitions := [] } :=
  have valid := coherent.valid
  Automaton.checked_eq_ok_iff.mpr ⟨rfl, valid.hasStates, valid.idsDistinct, valid.initialKnown,
    valid.labelsUsable, valid.alphabetUsable, by simp⟩

/-- Building a coherent description gives the automaton that it stands for. -/
theorem build_of_coherent {listing : Listing Name} (coherent : listing.Coherent) :
    listing.build = .ok listing.automaton := by
  have accepting :
      (listing.accepting.forM fun name => discard (listing.idOf name)) = .ok () := by
    refine forM_eq_ok_iff.mpr fun name member => ?_
    rw [idOf_of_mem (coherent.acceptingListed name member)]
    rfl
  have installed := coherent.installAll (List.nil_append listing.transitions).symm
  unfold build
  simp only [refuseIf_eq_ok_iff, bind_eq_ok_iff, Decidable.not_not]
  exact ⟨coherent.statesDistinct, _, idOf_of_mem coherent.initialListed, (), accepting, _,
    coherent.checked, installed⟩

end Listing

end Acceptor
