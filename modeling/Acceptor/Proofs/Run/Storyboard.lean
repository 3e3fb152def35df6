import Acceptor.Proofs.Run.Playback
import Acceptor.Proofs.Run.Story

/-!
# The storyboard of a run

What the frames of a shown run are, said from the verdict that the check of its input gives: one at
the start, two for every transition of its journey, and one with the verdict. `Storyboard` says it
frame by frame, and `storyboard_of_concluded` that the frames of a journey are just these. The two
are produced by loops of their own; what ties them together is the journey.
-/

namespace Acceptor

variable {model : Automaton} {symbols left : List Symbol}

/-- Frames show what a verdict says, on the projection of the automaton: one at the start, two for
every transition on its way to the verdict, and one with the verdict. -/
structure Storyboard (model : Automaton) (symbols : List Symbol) (verdict : Verdict)
    (frames : List Frame) : Prop where
  length : frames.length = 2 * verdict.steps.length + 2
  numbered : ∀ index frame, frames[index]? = some frame → frame.sequence = index + 1
  opens : frames[0]? = some model.opening
  /-- The transitions read the input one symbol after the other, each from where the last one led,
  and every one of them has an edge. -/
  reads : ∀ index step, verdict.steps[index]? = some step →
    symbols[index]? = some step.symbol ∧
      step.source = model.stateAfter (verdict.steps.take index) ∧
      step.target = model.stateAfter (verdict.steps.take (index + 1)) ∧
      ∃ edge, model.projection.edgeBetween? step.source step.target = some edge ∧
        model.edgeOf step = some edge.id
  departs : ∀ index step, verdict.steps[index]? = some step →
    frames[2 * index + 1]? = some (model.departure (verdict.steps.take index) step)
  arrives : ∀ index step, verdict.steps[index]? = some step →
    frames[2 * index + 2]? = some (model.arrival (verdict.steps.take index) step)
  closes : frames[2 * verdict.steps.length + 1]? = some (model.closing symbols verdict)
  ends : verdict.state = model.stateAfter verdict.steps ∧ verdict.state ∈ model.ids
  undecided : ∀ frame ∈ frames.dropLast, frame.verdict = none
  /-- The last frame differs in its marks from the one before by the colour of one state at most. -/
  recolours : ∀ before, frames[2 * verdict.steps.length]? = some before →
    (model.closing symbols verdict).edges = before.edges ∧
      (model.closing symbols verdict).nodes =
        if symbols.isEmpty then before.nodes
        else recoloured before.nodes verdict.state
          (if verdict.accepted then .accepted else .rejected)

variable {emptyAccepts : Bool} {verdict : Verdict}

/-- All frames of a run that a verdict concludes. -/
def storyboard (model : Automaton) (symbols : List Symbol) (verdict : Verdict) : List Frame :=
  (model.opening :: model.story [] verdict.steps) ++ [model.closing symbols verdict]

/-- A frame before the last is the first one or belongs to a transition. -/
theorem storyboard_getElem?_of_le {index : Nat} (bound : index ≤ 2 * verdict.steps.length) :
    (storyboard model symbols verdict)[index]? =
      (model.opening :: model.story [] verdict.steps)[index]? := by
  unfold storyboard
  rw [List.getElem?_append_left]
  rw [List.length_cons, Automaton.length_story]
  omega

theorem storyboard_getElem?_last :
    (storyboard model symbols verdict)[2 * verdict.steps.length + 1]? =
      some (model.closing symbols verdict) := by
  have length : (model.opening :: model.story [] verdict.steps).length =
      2 * verdict.steps.length + 1 := by
    rw [List.length_cons, Automaton.length_story]
  unfold storyboard
  rw [← length, List.getElem?_concat_length]

theorem length_storyboard :
    (storyboard model symbols verdict).length = 2 * verdict.steps.length + 2 := by
  unfold storyboard
  rw [List.length_append, List.length_cons, Automaton.length_story]
  rfl

/-- The frames of a storyboard are numbered from 1. -/
theorem sequence_of_storyboard {index : Nat} {frame : Frame}
    (shown : (storyboard model symbols verdict)[index]? = some frame) :
    frame.sequence = index + 1 := by
  have bound := (List.getElem?_eq_some_iff.mp shown).1
  rw [length_storyboard] at bound
  by_cases last : index = 2 * verdict.steps.length + 1
  · rw [last, storyboard_getElem?_last] at shown
    obtain rfl := Option.some.inj shown
    rw [last]
    rfl
  · rw [storyboard_getElem?_of_le (by omega)] at shown
    cases index with
    | zero =>
      obtain rfl := Option.some.inj shown
      rfl
    | succ index =>
      have place := Automaton.sequence_of_story shown
      rw [place, List.length_nil]
      omega

/-- The two frames of a transition in a storyboard. -/
theorem storyboard_getElem?_of_step {index : Nat} {step : Transition}
    (taken : verdict.steps[index]? = some step) :
    (storyboard model symbols verdict)[2 * index + 1]? =
        some (model.departure (verdict.steps.take index) step) ∧
      (storyboard model symbols verdict)[2 * index + 2]? =
        some (model.arrival (verdict.steps.take index) step) := by
  have bound := (List.getElem?_eq_some_iff.mp taken).1
  rw [storyboard_getElem?_of_le (by omega), storyboard_getElem?_of_le (by omega)]
  exact model.story_getElem? taken

/-- Before the last frame the marks are all states and edges of the journey. -/
theorem marks_before_last {before : Frame}
    (shown : (storyboard model symbols verdict)[2 * verdict.steps.length]? = some before) :
    before.nodes = activeMarks (model.visited verdict.steps) ∧
      before.edges = activeMarks (model.travelled verdict.steps) := by
  rcases List.eq_nil_or_concat' verdict.steps with none | ⟨others, step, concat⟩
  · rw [none] at shown ⊢
    obtain rfl := Option.some.inj shown
    exact ⟨rfl, rfl⟩
  · have taken : verdict.steps[others.length]? = some step := by
      rw [concat, List.getElem?_concat_length]
    have arrived : (storyboard model symbols verdict)[2 * others.length + 2]? =
        some (model.arrival (verdict.steps.take others.length) step) :=
      (storyboard_getElem?_of_step taken).2
    have place : 2 * verdict.steps.length = 2 * others.length + 2 := by
      rw [concat, List.length_append, List.length_singleton]
      omega
    rw [place, arrived] at shown
    obtain rfl := Option.some.inj shown
    rw [concat, List.take_left]
    exact ⟨rfl, rfl⟩

/-- The frames of a journey are the storyboard of the verdict that concludes it. -/
theorem storyboard_of_concluded (valid : model.Valid)
    (concluded : model.Concluded emptyAccepts symbols verdict left) :
    Storyboard model symbols verdict (storyboard model symbols verdict) where
  length := length_storyboard
  numbered := fun index frame shown => sequence_of_storyboard shown
  opens := rfl
  reads := by
    intro index step taken
    obtain ⟨source, found⟩ := concluded.journey.source_eq model.stateAfter_nil taken
    refine ⟨?_, source, ?_, model.edgeOf_of_target? valid found⟩
    · rw [concluded.journey.symbols_eq, List.getElem?_append_left, List.getElem?_map, taken]
      · rfl
      · rw [List.length_map]
        exact (List.getElem?_eq_some_iff.mp taken).1
    · rw [List.take_add_one, taken]
      exact (model.stateAfter_concat _ step).symm
  departs := fun index step taken => (storyboard_getElem?_of_step taken).1
  arrives := fun index step taken => (storyboard_getElem?_of_step taken).2
  closes := storyboard_getElem?_last
  ends := ⟨concluded.journey.last_eq model.stateAfter_nil,
    concluded.journey.last_known valid valid.initialKnown⟩
  undecided := by
    intro frame member
    rw [storyboard, List.dropLast_concat, List.mem_cons] at member
    rcases member with rfl | later
    · rfl
    · exact Automaton.verdict_of_mem_story later
  recolours := by
    intro before shown
    obtain ⟨nodes, edges⟩ := marks_before_last shown
    rw [nodes, edges]
    exact ⟨rfl, rfl⟩

/-- A run pulled to its end shows the storyboard of the verdict that the check of its input gives,
and has this verdict then. -/
theorem rest_start_storyboard {model : Automaton} (valid : model.Valid) (symbols : List Symbol)
    (emptyAccepts : Bool) :
    ∃ frames finished, (Playback.start model symbols emptyAccepts).rest = (frames, finished) ∧
      finished.finished = true ∧ finished.verdict = some (model.check emptyAccepts symbols) ∧
      Storyboard model symbols (model.check emptyAccepts symbols) frames := by
  obtain ⟨left, concluded⟩ := model.exists_concluded_check emptyAccepts symbols
  have frames := model.frames_eq valid concluded
  have silence : ∀ frame ∈ model.opening :: model.story [] (model.check emptyAccepts symbols).steps,
      frame.verdict = none := by
    intro frame member
    rcases List.mem_cons.mp member with rfl | later
    · rfl
    · exact Automaton.verdict_of_mem_story later
  have running : (Playback.start model symbols emptyAccepts).finished = false := rfl
  have pulled := Playback.rest_of_coming running frames silence rfl
  exact ⟨_, _, pulled, rfl, rfl, storyboard_of_concluded valid concluded⟩

/-- An automaton with a loop, two transitions on one edge and an identifier that is not 1. -/
def looped : Automaton where
  states := [⟨-3, "Q", false⟩, ⟨8, "Q", true⟩]
  alphabet := ["A"]
  transitions := [⟨-3, "A", -3⟩, ⟨-3, "C", 8⟩, ⟨-3, "0", 8⟩]
  initial := -3

/-- A run through a loop that gets stuck afterwards has six frames, and the last one names the
symbol. -/
theorem rest_start_looped : looped.Valid ∧
    ∃ frames finished, (Playback.start looped ["A", "0", "A"] true).rest = (frames, finished) ∧
      frames.length = 6 ∧ frames[5]? = some ⟨6, .rejected, 8, 2, some "A", none,
        [(-3, .active), (8, .rejected)], [(⟨1⟩, .active), (⟨2⟩, .active)],
        some ⟨.stuck 2 "A", 8, [⟨-3, "A", -3⟩, ⟨-3, "0", 8⟩]⟩⟩ := by
  have accepted : Automaton.ofParts looped.states looped.alphabet looped.transitions
      looped.initial = .ok looped := rfl
  have valid := Automaton.valid_of_ofParts accepted
  obtain ⟨frames, finished, pulled, -, -, shows⟩ :=
    rest_start_storyboard valid ["A", "0", "A"] true
  exact ⟨valid, frames, finished, pulled, shows.length, shows.closes⟩

end Acceptor
