import Acceptor.Proofs.Automaton.Building
import Acceptor.Proofs.Automaton.Editing
import Acceptor.Proofs.Distinct

/-!
# What a sequence of edits leaves

Edits follow each other, and a refused one leaves the automaton as it is. What the successful ones
asked for decides what there is in the end (`evolved_editAll`): the transitions that were there
first, then the first one that succeeded for each other source and symbol, in the order of these
successes; for each state the accepting flag that was set last; all else as it was, with new states
and symbols at the end. `Grown` is the part of this that goes from one edit to the next.
-/

namespace Acceptor

/-- A call that edits an automaton. -/
inductive Edit where
  | addState (accepting : Bool)
  | addTransition (source target : StateId) (symbol : Symbol)
  | setAccepting (id : StateId) (accepting : Bool)
  deriving DecidableEq, Repr

/-- An edit that succeeded, with the automaton it was made on. -/
structure Success where
  before : Automaton
  edit : Edit
  deriving DecidableEq, Repr

namespace Automaton

/-- An edited automaton, or the refusal. -/
def attempt (model : Automaton) : Edit → Except AutomatonError Automaton
  | .addState accepting => .ok (model.addState accepting).1
  | .addTransition source target symbol => model.addTransition source target symbol
  | .setAccepting id accepting => model.setAccepting id accepting

/-- The automaton after a sequence of edits, without those that are refused. -/
def editAll (model : Automaton) : List Edit → Automaton
  | [] => model
  | edit :: rest =>
    match model.attempt edit with
    | .ok after => after.editAll rest
    | .error _ => model.editAll rest

/-- The edits of a sequence that are not refused. -/
def successes (model : Automaton) : List Edit → List Success
  | [] => []
  | edit :: rest =>
    match model.attempt edit with
    | .ok after => ⟨model, edit⟩ :: after.successes rest
    | .error _ => model.successes rest

end Automaton

namespace Success

/-- The transition that an edit asked for, whether or not it was there already. -/
def transition? : Success → Option Transition
  | ⟨_, .addTransition source target symbol⟩ => some ⟨source, symbol, target⟩
  | _ => none

/-- The accepting flag that an edit asked for. -/
def flag? : Success → Option (StateId × Bool)
  | ⟨_, .setAccepting id accepting⟩ => some (id, accepting)
  | _ => none

/-- The state that an edit created. -/
def state? : Success → Option State
  | ⟨before, .addState accepting⟩ =>
    some ⟨before.maxId + 1, before.freshLabel (before.maxId + 1), accepting⟩
  | _ => none

/-- The transitions that edits asked for, in order. -/
def transitions (done : List Success) : List Transition :=
  done.filterMap transition?

/-- The accepting flags that edits asked for, in order. -/
def flags (done : List Success) : List (StateId × Bool) :=
  done.filterMap flag?

/-- The states that edits created, in order. -/
def states (done : List Success) : List State :=
  done.filterMap state?

end Success

/-- The transitions of a list that are the first with their source and symbol. -/
def Transition.firsts : List Transition → List Transition
  | [] => []
  | first :: rest => first :: (firsts rest).filter (·.key != first.key)

/-- A state with the flag that was set last for it, if one was set. -/
def State.flagged (flags : List (StateId × Bool)) (state : State) : State :=
  { state with accepting := (flags.reverse.lookup state.id).getD state.accepting }

namespace Automaton

/-- The transitions that edits installed: for each source and symbol without a transition the first
one that succeeded. -/
def installed (model : Automaton) (done : List Success) : List Transition :=
  Transition.firsts ((Success.transitions done).filter fun transition =>
    !(model.transitions.map Transition.key).contains transition.key)

/-- What each successful edit adds to what the earlier ones have made of an automaton. Flags are set
for known states only, so none is set for a state before it is there. -/
structure Grown (model : Automaton) (done : List Success) (after : Automaton) : Prop where
  valid : after.Valid
  initial : after.initial = model.initial
  states : after.states = (model.states ++ Success.states done).map
    (State.flagged (Success.flags done))
  flagsKnown : ∀ flag ∈ Success.flags done, flag.1 ∈ after.ids
  transitions : after.transitions = model.transitions ++ model.installed done
  alphabet : after.alphabet = model.alphabet ++
    distinct (((model.installed done).map Transition.symbol).filter (!model.alphabet.contains ·))

/-- What an automaton has become through successful edits. -/
structure Evolved (model : Automaton) (done : List Success) (after : Automaton) : Prop extends
    Grown model done after where
  /-- Who asked first for a source and a symbol decides the target. -/
  targets : ∀ source symbol, after.target? source symbol =
    ((model.transitions ++ Success.transitions done).find?
      (·.key == (source, symbol))).map Transition.target
  /-- A transition to another known state is refused, and the refusal names what there is. -/
  conflicts : ∀ source symbol target, after.target? source symbol = some target →
    ∀ other ∈ after.ids, other ≠ target → ∃ sourceState ∈ after.states, ∃ existing ∈ after.states,
      sourceState.id = source ∧ existing.id = target ∧
        after.addTransition source other symbol = .error (.conflict sourceState symbol existing)
  /-- Symbols of installed transitions are in the alphabet. -/
  symbolsListed : ∀ transition ∈ model.installed done, transition.symbol ∈ after.alphabet

end Automaton

namespace Transition

variable {transitions : List Transition}

theorem mem_keys_firsts {key : StateId × Symbol} :
    key ∈ (firsts transitions).map Transition.key ↔ key ∈ transitions.map Transition.key := by
  induction transitions with
  | nil => rfl
  | cons first rest inductionHypothesis =>
    simp only [firsts, List.map_cons, List.mem_cons, ← inductionHypothesis]
    by_cases same : key = first.key
    · simp [same]
    · simp only [same, false_or, List.mem_map, List.mem_filter, bne_iff_ne]
      constructor
      · rintro ⟨transition, ⟨member, -⟩, rfl⟩
        exact ⟨transition, member, rfl⟩
      · rintro ⟨transition, member, rfl⟩
        exact ⟨transition, ⟨member, same⟩, rfl⟩

/-- One more transition is not among the first if its source and symbol are there already. -/
theorem firsts_concat (transition : Transition) :
    firsts (transitions ++ [transition]) =
      if transition.key ∈ transitions.map key then firsts transitions
      else firsts transitions ++ [transition] := by
  induction transitions with
  | nil => rfl
  | cons first rest inductionHypothesis =>
    rw [List.cons_append, firsts, inductionHypothesis, List.map_cons, firsts]
    by_cases same : transition.key = first.key
    · by_cases there : transition.key ∈ rest.map key
      · rw [if_pos there, if_pos (List.mem_cons_of_mem _ there)]
      · rw [if_neg there, if_pos (same ▸ List.mem_cons_self), List.filter_append]
        simp [same]
    · by_cases there : transition.key ∈ rest.map key
      · rw [if_pos there, if_pos (List.mem_cons_of_mem _ there)]
      · rw [if_neg there, if_neg (List.not_mem_cons_of_ne_of_not_mem same there),
          List.filter_append, List.filter_cons_of_pos (by simpa using same), List.cons_append]
        rfl

/-- The first transition with a source and a symbol is the same one. -/
theorem find?_firsts (key : StateId × Symbol) :
    (firsts transitions).find? (·.key == key) = transitions.find? (·.key == key) := by
  induction transitions with
  | nil => rfl
  | cons first rest inductionHypothesis =>
    by_cases same : first.key = key
    · rw [firsts, List.find?_cons_of_pos (by simpa using same),
        List.find?_cons_of_pos (by simpa using same)]
    · rw [firsts, List.find?_cons_of_neg (by simpa using same),
        List.find?_cons_of_neg (by simpa using same), List.find?_filter, ← inductionHypothesis]
      -- What is left out has the first transition's key, so it is not what is looked for.
      refine congrArg (List.find? · _) (funext fun transition => ?_)
      by_cases wanted : transition.key = key
      · simp [wanted, Ne.symm same]
      · simp [wanted]

end Transition

namespace Success

variable (done : List Success) (success : Success)

@[simp] theorem transitions_concat :
    transitions (done ++ [success]) = transitions done ++ success.transition?.toList := by
  cases asked : success.transition? <;> simp [transitions, asked]

@[simp] theorem flags_concat : flags (done ++ [success]) = flags done ++ success.flag?.toList := by
  cases asked : success.flag? <;> simp [flags, asked]

@[simp] theorem states_concat :
    states (done ++ [success]) = states done ++ success.state?.toList := by
  cases created : success.state? <;> simp [states, created]

end Success

namespace State

variable {flags : List (StateId × Bool)} {state : State}

theorem flagged_nil : state.flagged [] = state := rfl

theorem flagged_of_unknown (unknown : ∀ flag ∈ flags, flag.1 ≠ state.id) :
    state.flagged flags = state := by
  have missing : flags.reverse.lookup state.id = none := by
    rw [List.lookup_eq_none_iff]
    intro flag member
    simpa using (unknown flag (List.mem_reverse.mp member)).symm
  rw [flagged, missing, Option.getD_none]

/-- The flag that is set last decides. -/
theorem flagged_concat (id : StateId) (accepting : Bool) :
    state.flagged (flags ++ [(id, accepting)]) =
      if state.id = id then { state with accepting } else state.flagged flags := by
  rw [flagged, List.reverse_append, List.reverse_singleton, List.singleton_append]
  split
  · next same => simp [same]
  · next different => simp [List.lookup_cons, beq_eq_false_iff_ne.mpr different, flagged]

end State

namespace Automaton

variable {model before after : Automaton} {done : List Success} {success : Success} {edit : Edit}

@[simp] theorem installed_nil : model.installed [] = [] := rfl

theorem installed_of_none (asked : success.transition? = none) :
    model.installed (done ++ [success]) = model.installed done := by
  simp [installed, asked]

/-- A transition is installed if none with its source and symbol is there. -/
theorem installed_concat {transition : Transition}
    (asked : success.transition? = some transition) :
    model.installed (done ++ [success]) =
      if transition.key ∈ (model.transitions ++ model.installed done).map Transition.key
      then model.installed done else model.installed done ++ [transition] := by
  rw [List.map_append]
  simp only [installed, Success.transitions_concat, asked, Option.toList_some, List.filter_append,
    List.mem_append, Transition.mem_keys_firsts]
  by_cases there : transition.key ∈ model.transitions.map Transition.key
  · rw [List.filter_cons_of_neg (by simpa using there), List.filter_nil, List.append_nil,
      if_pos (.inl there)]
  · rw [List.filter_cons_of_pos (by simpa using there), List.filter_nil, Transition.firsts_concat]
    simp only [there, false_or]

/-- Asking for a transition that is there already installs nothing. -/
theorem Grown.installed_of_taken (grown : Grown model done after) {source target : StateId}
    {symbol : Symbol} (taken : after.target? source symbol = some target)
    (asked : success.transition? = some ⟨source, symbol, target⟩) :
    model.installed (done ++ [success]) = model.installed done := by
  rw [installed_concat asked, ← grown.transitions]
  refine if_pos (by_contra fun free => ?_)
  rw [target?_eq_none_iff.mpr free] at taken
  cases taken

theorem Grown.installed_of_free (grown : Grown model done after) {source target : StateId}
    {symbol : Symbol} (free : after.target? source symbol = none)
    (asked : success.transition? = some ⟨source, symbol, target⟩) :
    model.installed (done ++ [success]) = model.installed done ++ [⟨source, symbol, target⟩] := by
  rw [installed_concat asked, ← grown.transitions]
  exact if_neg (target?_eq_none_iff.mp free)

/-- Without edits nothing has changed. -/
theorem grown_refl (valid : model.Valid) : Grown model [] model where
  valid := valid
  initial := rfl
  states := by
    rw [Success.states, List.filterMap_nil, List.append_nil]
    exact (List.map_id'' (fun _ => State.flagged_nil) model.states).symm
  flagsKnown := nofun
  transitions := by simp
  alphabet := by simp [distinct]

theorem Grown.addState (grown : Grown model done before) (accepting : Bool) :
    Grown model (done ++ [⟨before, .addState accepting⟩]) (before.addState accepting).1 where
  valid := grown.valid.addState accepting
  initial := grown.initial
  states := by
    -- No flag was set for the new state before it was there.
    have unset : ∀ flag ∈ Success.flags done, flag.1 ≠ before.maxId + 1 := by
      intro flag set same
      exact before.next_not_mem_ids (same ▸ grown.flagsKnown flag set)
    simp only [Success.states_concat, Success.flags_concat, Success.state?, Success.flag?,
      Option.toList_some, Option.toList_none, List.append_nil, ← List.append_assoc]
    rw [List.map_append, ← grown.states, List.map_singleton, State.flagged_of_unknown unset]
    rfl
  flagsKnown := by
    intro flag set
    rw [ids_addState]
    exact List.mem_append_left _ (grown.flagsKnown flag (by simpa [Success.flag?] using set))
  transitions := by
    rw [installed_of_none rfl]
    exact grown.transitions
  alphabet := by
    rw [installed_of_none rfl]
    exact grown.alphabet

/-- The alphabet gets the symbol of one more transition. -/
theorem withSymbol_distinct (alphabet symbols : List Symbol) (symbol : Symbol) :
    withSymbol (alphabet ++ distinct (symbols.filter (!alphabet.contains ·))) symbol =
      alphabet ++ distinct ((symbols ++ [symbol]).filter (!alphabet.contains ·)) := by
  unfold withSymbol
  by_cases listed : symbol ∈ alphabet
  · simp [listed]
  · rw [List.filter_append, List.filter_cons_of_pos (by simpa using listed), List.filter_nil,
      distinct_concat]
    by_cases there : symbol ∈ symbols <;> simp [listed, there, mem_distinct]

theorem Grown.addTransition (grown : Grown model done before) {source target : StateId}
    {symbol : Symbol} (added : before.addTransition source target symbol = .ok after) :
    Grown model (done ++ [⟨before, .addTransition source target symbol⟩]) after := by
  have valid := grown.valid.addTransition added
  have states : Success.states (done ++ [⟨before, .addTransition source target symbol⟩]) =
      Success.states done := by simp [Success.state?]
  have flags : Success.flags (done ++ [⟨before, .addTransition source target symbol⟩]) =
      Success.flags done := by simp [Success.flag?]
  obtain ⟨-, -, -, ⟨taken, rfl⟩ | ⟨free, rfl⟩⟩ := addTransition_eq_ok_iff.mp added
  · refine ⟨valid, grown.initial, ?_, flags ▸ grown.flagsKnown, ?_, ?_⟩
    · rw [states, flags]
      exact grown.states
    · rw [grown.installed_of_taken taken rfl]
      exact grown.transitions
    · rw [grown.installed_of_taken taken rfl]
      exact grown.alphabet
  · refine ⟨valid, grown.initial, ?_, flags ▸ grown.flagsKnown, ?_, ?_⟩
    · rw [states, flags]
      exact grown.states
    · rw [grown.installed_of_free free rfl, ← List.append_assoc, ← grown.transitions]
    · rw [grown.installed_of_free free rfl, List.map_append, List.map_singleton,
        ← withSymbol_distinct, ← grown.alphabet]

/-- Setting a flag needs a known state, and sets the flag of this state only. -/
theorem states_setAccepting (valid : before.Valid) {id : StateId} {accepting : Bool}
    (set : before.setAccepting id accepting = .ok after) :
    id ∈ before.ids ∧ after.states = before.states.map fun state =>
      if state.id = id then { state with accepting } else state := by
  unfold Automaton.setAccepting at set
  obtain ⟨current, found, set⟩ := bind_eq_ok_iff.mp set
  have known := state?_isSome_iff.mp (Option.isSome_of_eq_some (state_eq_ok_iff.mp found))
  refine ⟨known, ?_⟩
  split at set
  · next unchanged =>
    -- The flag was set already, of the one state with the identifier.
    obtain rfl := pure_eq_ok_iff.mp set
    obtain ⟨known, member, rfl, same⟩ := state?_of_mem_ids known
    obtain rfl := Option.some.inj (same.symm.trans (state_eq_ok_iff.mp found))
    refine ((List.map_congr_left fun state there => ?_).trans (List.map_id _)).symm
    split
    · next alike =>
      obtain rfl := List.inj_on_of_nodup_map valid.idsDistinct there member alike
      rw [← unchanged]
      rfl
    · rfl
  · obtain rfl := pure_eq_ok_iff.mp set
    rfl

theorem Grown.setAccepting (grown : Grown model done before) {id : StateId} {accepting : Bool}
    (set : before.setAccepting id accepting = .ok after) :
    Grown model (done ++ [⟨before, .setAccepting id accepting⟩]) after := by
  have shape := sameShape_of_setAccepting set
  obtain ⟨known, states⟩ := states_setAccepting grown.valid set
  refine ⟨grown.valid.of_sameShape shape, shape.initial.trans grown.initial, ?_, ?_, ?_, ?_⟩
  · simp only [Success.states_concat, Success.flags_concat, Success.state?, Success.flag?,
      Option.toList_some, Option.toList_none, List.append_nil]
    rw [states, grown.states, List.map_map]
    refine List.map_congr_left fun state _ => ?_
    rw [State.flagged_concat]
    rfl
  · intro flag set
    rw [shape.ids]
    simp only [Success.flags_concat, Success.flag?, Option.toList_some, List.mem_append,
      List.mem_singleton] at set
    rcases set with earlier | rfl
    · exact grown.flagsKnown flag earlier
    · exact known
  · rw [installed_of_none rfl, shape.transitions]
    exact grown.transitions
  · rw [installed_of_none rfl, shape.alphabet]
    exact grown.alphabet

/-- A successful edit leads from one automaton that has grown to the next. -/
theorem Grown.attempt (grown : Grown model done before)
    (succeeds : before.attempt edit = .ok after) :
    Grown model (done ++ [⟨before, edit⟩]) after := by
  cases edit with
  | addState accepting =>
    obtain rfl := Except.ok.inj succeeds
    exact grown.addState accepting
  | addTransition source target symbol => exact grown.addTransition succeeds
  | setAccepting id accepting => exact grown.setAccepting succeeds

/-- What one successful edit leaves, and a refused one does not touch, is left by all edits. -/
theorem Grown.editAll (grown : Grown model done before) (edits : List Edit) :
    Grown model (done ++ before.successes edits) (before.editAll edits) := by
  induction edits generalizing before done with
  | nil => simpa [successes, Automaton.editAll] using grown
  | cons edit rest inductionHypothesis =>
    unfold successes Automaton.editAll
    cases succeeds : before.attempt edit with
    | ok after => simpa using inductionHypothesis (grown.attempt succeeds)
    | error refusal => exact inductionHypothesis grown

/-- A transition to another known target than the one that is there is refused. -/
theorem addTransition_of_conflict (valid : model.Valid) {source target other : StateId}
    {symbol : Symbol} (there : model.target? source symbol = some target)
    (known : other ∈ model.ids) (different : other ≠ target) :
    ∃ sourceState ∈ model.states, ∃ existing ∈ model.states,
      sourceState.id = source ∧ existing.id = target ∧
        model.addTransition source other symbol =
          .error (.conflict sourceState symbol existing) := by
  have member := (target?_eq_some_iff valid.keysDistinct).mp there
  obtain ⟨sourceState, sourceMember, sourceId, sourceFound⟩ :=
    state?_of_mem_ids (valid.sourcesKnown _ member)
  obtain ⟨existing, existingMember, existingId, existingFound⟩ :=
    state?_of_mem_ids (valid.targetsKnown _ member)
  refine ⟨sourceState, sourceMember, existing, existingMember, sourceId, existingId, ?_⟩
  have usable : requireLiteral "Transition symbols" symbol = .ok () :=
    requireLiteral_eq_ok_iff.mpr (valid.symbolsUsable _ member)
  simp only [addTransition, state_eq_ok_iff.mpr sourceFound, requireState_eq_ok_iff.mpr known,
    usable, there, state_eq_ok_iff.mpr existingFound, Ne.symm different, if_false]
  rfl

/-- Who asked first for a source and a symbol decides the target. -/
theorem Grown.target?_eq (grown : Grown model done after) (source : StateId) (symbol : Symbol) :
    after.target? source symbol = ((model.transitions ++ Success.transitions done).find?
      (·.key == (source, symbol))).map Transition.target := by
  rw [target?, grown.transitions, List.find?_append, List.find?_append]
  cases there : model.transitions.find? (·.key == (source, symbol)) with
  | some transition => rfl
  | none =>
    have absent : (source, symbol) ∉ model.transitions.map Transition.key :=
      target?_eq_none_iff.mp (by rw [target?, there, Option.map_none])
    rw [Option.none_or, Option.none_or, installed, Transition.find?_firsts, List.find?_filter]
    -- A transition with this source and symbol is not left out.
    refine congrArg (Option.map _ <| List.find? · _) (funext fun transition => ?_)
    by_cases wanted : transition.key = (source, symbol)
    · simpa [wanted] using absent
    · simp [wanted]

/-- The transitions that were there stay first, and what is added to them, to the states and to the
alphabet is what the successful edits asked for first, and last for the accepting flags. This is so
after each beginning of a sequence of edits as well, so a transition that is installed decides about
all later edits with its source and symbol. -/
theorem evolved_editAll (valid : model.Valid) (edits : List Edit) :
    Evolved model (model.successes edits) (model.editAll edits) := by
  have grown : Grown model (model.successes edits) (model.editAll edits) :=
    (grown_refl valid).editAll edits
  refine ⟨grown, grown.target?_eq, ?_, ?_⟩
  · intro source symbol target there other known different
    exact addTransition_of_conflict grown.valid there known different
  · intro transition member
    rw [grown.alphabet, List.mem_append, mem_distinct, List.mem_filter]
    by_cases listed : transition.symbol ∈ model.alphabet
    · exact .inl listed
    · exact .inr ⟨List.mem_map_of_mem member, by simpa using listed⟩

/-- Edits of which a conflict and two unknown states are refused, one of them only at first, and
one of which asks for what is there. -/
def mixedEdits : List Edit :=
  [.addState true, .addTransition 1 2 "A", .addTransition 1 1 "A", .addTransition 2 3 "B",
    .addState false, .addTransition 2 3 "B", .addTransition 1 2 "A", .setAccepting 2 false,
    .setAccepting 9 true, .setAccepting 1 true]

theorem evolved_of_mixedEdits :
    Automaton.empty.Valid ∧
      Evolved Automaton.empty (Automaton.empty.successes mixedEdits)
        (Automaton.empty.editAll mixedEdits) ∧
      Automaton.empty.editAll mixedEdits =
        ⟨[⟨1, "Start", true⟩, ⟨2, "Q2", false⟩, ⟨3, "Q3", false⟩], ["A", "C", "0", "B"],
          [⟨1, "A", 2⟩, ⟨2, "B", 3⟩], 1⟩ :=
  ⟨orderly_empty.toValid, evolved_editAll orderly_empty.toValid mixedEdits, by decide +kernel⟩

end Automaton

end Acceptor
