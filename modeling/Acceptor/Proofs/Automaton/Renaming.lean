import Acceptor.Proofs.Automaton.Canonical
import Acceptor.Run.Verdict
import Mathlib.Data.List.Find

/-!
# Other identifiers for the same states

Identifiers only tell states apart. If a map keeps them apart, an automaton with mapped identifiers
is valid again, has the same description by labels, and comes to the mapped verdict on every input
(`check_rename`). The map may send identifiers that no state has wherever it likes, so every lookup
is about a known one. Numbering states by their place in the list is such a map
(`keepsApart_place`).
-/

namespace Acceptor

/-- A state under another identifier. -/
def State.rename (numbering : StateId → StateId) (state : State) : State :=
  { state with id := numbering state.id }

/-- A transition between states under other identifiers. -/
def Transition.rename (numbering : StateId → StateId) (transition : Transition) : Transition :=
  ⟨numbering transition.source, transition.symbol, numbering transition.target⟩

/-- A verdict on states under other identifiers. Its outcome does not refer to states. -/
def Verdict.rename (numbering : StateId → StateId) (verdict : Verdict) : Verdict where
  outcome := verdict.outcome
  state := numbering verdict.state
  steps := verdict.steps.map (Transition.rename numbering)

namespace Automaton

/-- An automaton with other identifiers for its states. -/
def rename (numbering : StateId → StateId) (model : Automaton) : Automaton where
  states := model.states.map (State.rename numbering)
  alphabet := model.alphabet
  transitions := model.transitions.map (Transition.rename numbering)
  initial := numbering model.initial

/-- No two states of an automaton get the same identifier. -/
def KeepsApart (numbering : StateId → StateId) (model : Automaton) : Prop :=
  ∀ left ∈ model.ids, ∀ right ∈ model.ids, numbering left = numbering right → left = right

variable {model : Automaton} {numbering : StateId → StateId}

@[simp]
theorem ids_rename : (model.rename numbering).ids = model.ids.map numbering := by
  simp only [ids, Automaton.rename, List.map_map]
  rfl

@[simp]
theorem labels_rename : (model.rename numbering).labels = model.labels := by
  simp only [labels, Automaton.rename, List.map_map]
  rfl

/-- A known state is found under its other identifier. -/
theorem state?_rename (apart : model.KeepsApart numbering) {id : StateId} (known : id ∈ model.ids) :
    (model.rename numbering).state? (numbering id) =
      (model.state? id).map (State.rename numbering) := by
  unfold state? Automaton.rename
  rw [List.find?_map]
  refine congrArg (Option.map _) (List.find?_congr fun state member => ?_)
  have stateKnown : state.id ∈ model.ids := List.mem_map_of_mem member
  rw [Bool.eq_iff_iff]
  simp only [Function.comp, State.rename, beq_iff_eq]
  exact ⟨apart _ stateKnown _ known, congrArg numbering⟩

theorem isAccepting_rename (apart : model.KeepsApart numbering) {id : StateId}
    (known : id ∈ model.ids) :
    (model.rename numbering).isAccepting (numbering id) = model.isAccepting id := by
  unfold isAccepting
  rw [state?_rename apart known, Option.any_map]
  rfl

theorem labelOf_rename (apart : model.KeepsApart numbering) {id : StateId}
    (known : id ∈ model.ids) :
    (model.rename numbering).labelOf (numbering id) = model.labelOf id := by
  unfold labelOf
  rw [state?_rename apart known, Option.map_map]
  rfl

/-- A transition from a known state leads to the other identifier of its target. -/
theorem target?_rename (valid : model.Valid) (apart : model.KeepsApart numbering) {source : StateId}
    (known : source ∈ model.ids) (symbol : Symbol) :
    (model.rename numbering).target? (numbering source) symbol =
      (model.target? source symbol).map numbering := by
  have search : (model.rename numbering).transitions.find? (·.key == (numbering source, symbol)) =
      (model.transitions.find? (·.key == (source, symbol))).map (Transition.rename numbering) := by
    rw [Automaton.rename, List.find?_map]
    refine congrArg (Option.map _) (List.find?_congr fun transition member => ?_)
    have sourceKnown := valid.sourcesKnown transition member
    rw [Bool.eq_iff_iff]
    simp only [Function.comp, Transition.rename, Transition.key, beq_iff_eq, Prod.mk.injEq]
    exact and_congr_left fun _ => ⟨apart _ sourceKnown _ known, congrArg numbering⟩
  rw [target?, target?, search, Option.map_map, Option.map_map]
  rfl

/-- A valid automaton stays valid under other identifiers. -/
theorem Valid.rename (valid : model.Valid) (apart : model.KeepsApart numbering) :
    (model.rename numbering).Valid where
  hasStates := by simpa [Automaton.rename] using valid.hasStates
  idsDistinct := by
    rw [ids_rename]
    exact valid.idsDistinct.map_on apart
  initialKnown := by
    rw [ids_rename]
    exact List.mem_map_of_mem valid.initialKnown
  labelsUsable := by
    intro state member
    obtain ⟨original, known, rfl⟩ := List.mem_map.mp member
    exact valid.labelsUsable original known
  alphabetUsable := valid.alphabetUsable
  symbolsUsable := by
    intro transition member
    obtain ⟨original, known, rfl⟩ := List.mem_map.mp member
    exact valid.symbolsUsable original known
  sourcesKnown := by
    intro transition member
    obtain ⟨original, known, rfl⟩ := List.mem_map.mp member
    rw [ids_rename]
    exact List.mem_map_of_mem (valid.sourcesKnown original known)
  targetsKnown := by
    intro transition member
    obtain ⟨original, known, rfl⟩ := List.mem_map.mp member
    rw [ids_rename]
    exact List.mem_map_of_mem (valid.targetsKnown original known)
  keysDistinct := by
    rw [Automaton.rename, List.map_map]
    refine List.Nodup.map_on (fun left leftMember right rightMember same => ?_)
      valid.keysDistinct.of_map
    obtain ⟨sources, symbols⟩ := Prod.mk.inj same
    have sameSource := apart _ (valid.sourcesKnown left leftMember) _
      (valid.sourcesKnown right rightMember) sources
    exact List.inj_on_of_nodup_map valid.keysDistinct leftMember rightMember
      (Prod.ext sameSource symbols)

/-- A description by labels does not show identifiers. -/
theorem listing_rename (valid : model.Valid) (apart : model.KeepsApart numbering) :
    (model.rename numbering).listing = model.listing := by
  have accepting : (model.rename numbering).acceptingStates.map State.label =
      model.acceptingStates.map State.label := by
    simp only [acceptingStates, Automaton.rename, List.filter_map, List.map_map]
    rfl
  have transitions : ((model.transitions.map (Transition.rename numbering)).map fun transition =>
      ((model.rename numbering).labelOf transition.source, transition.symbol,
        (model.rename numbering).labelOf transition.target)) =
      model.transitions.map fun transition => (model.labelOf transition.source,
        transition.symbol, model.labelOf transition.target) := by
    rw [List.map_map]
    refine List.map_congr_left fun transition member => ?_
    simp only [Function.comp, Transition.rename,
      labelOf_rename apart (valid.sourcesKnown transition member),
      labelOf_rename apart (valid.targetsKnown transition member)]
  have initial : (model.rename numbering).labelOf (model.rename numbering).initial =
      model.labelOf model.initial := labelOf_rename apart valid.initialKnown
  rw [listing, listing, labels_rename, initial, accepting]
  exact congrArg (Listing.mk model.labels model.alphabet _ _) transitions

/-- The rest of a check under other identifiers goes the same way. -/
theorem checkFrom_rename (valid : model.Valid) (apart : model.KeepsApart numbering)
    {current : StateId} (known : current ∈ model.ids) (consumed : Nat) (symbols : List Symbol) :
    (model.rename numbering).checkFrom (numbering current) consumed symbols =
      (model.checkFrom current consumed symbols).rename numbering := by
  induction symbols generalizing current consumed with
  | nil =>
    rw [checkFrom, checkFrom, isAccepting_rename apart known]
    rfl
  | cons symbol rest inductionHypothesis =>
    rw [checkFrom, checkFrom, target?_rename valid apart known]
    cases found : model.target? current symbol with
    | none => rfl
    | some target =>
      have member := (target?_eq_some_iff valid.keysDistinct).mp found
      have onward := inductionHypothesis (valid.targetsKnown _ member) (consumed + 1)
      simp only [Option.map_some, onward]
      rfl

/-- The verdict on an input does not depend on which identifiers the states have. -/
theorem check_rename (valid : model.Valid) (apart : model.KeepsApart numbering)
    (emptyAccepts : Bool) (symbols : List Symbol) :
    (model.rename numbering).check emptyAccepts symbols =
      (model.check emptyAccepts symbols).rename numbering := by
  cases symbols with
  | nil => rfl
  | cons symbol rest => exact checkFrom_rename valid apart valid.initialKnown 0 (symbol :: rest)

/-- The place of a state in the list of states, from 1. -/
def place (model : Automaton) (id : StateId) : StateId :=
  (model.ids.idxOf id : Int) + 1

/-- The states have the places 1, 2 and so on. -/
theorem place_getElem (idsDistinct : model.ids.Nodup) {index : Nat}
    (bound : index < model.states.length) :
    model.place model.states[index].id = (index : Int) + 1 := by
  have here := idsDistinct.idxOf_getElem index (by simpa [ids] using bound)
  simp only [ids, List.getElem_map] at here
  rw [place, ids, here]

/-- Different states have different places. -/
theorem keepsApart_place (model : Automaton) : model.KeepsApart model.place := by
  intro left leftKnown right rightKnown same
  exact (List.idxOf_inj leftKnown).mp (Int.ofNat.inj ((Int.add_left_inj 1).mp same))

/-- An automaton whose labels and symbols can be told apart is canonical once its states have their
places as identifiers. -/
theorem canonical_rename_place (valid : model.Valid) (labelsDistinct : model.labels.Nodup)
    (alphabetDistinct : model.alphabet.Nodup)
    (symbolsListed : ∀ transition ∈ model.transitions, transition.symbol ∈ model.alphabet) :
    (model.rename model.place).Canonical where
  idsNumbered := by
    rw [ids_rename]
    apply List.ext_getElem
    · simp [ids, Automaton.rename]
    · intro index bound _
      rw [List.length_map, ids, List.length_map] at bound
      simp only [ids, List.getElem_map, List.getElem_range]
      exact place_getElem valid.idsDistinct bound
  labelsDistinct := by rwa [labels_rename]
  alphabetDistinct := alphabetDistinct
  symbolsListed := by
    intro transition member
    obtain ⟨original, known, rfl⟩ := List.mem_map.mp member
    exact symbolsListed original known

end Automaton

end Acceptor
