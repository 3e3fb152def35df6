import Acceptor.Proofs.Diagram.Projection
import Acceptor.Proofs.Run.Journey
import Acceptor.Proofs.Run.Marks

/-!
# The frames of a journey

The frames of a run are produced by a loop of its own, which keeps marks up to date as it goes.
`sceneAfter` says what the loop has kept after some transitions: the states visited and the edges
travelled. One transition leads from such a scene to the next (`framesFrom_sceneAfter_cons`), so
along a journey the loop shows the frames of its transitions (`framesFrom_sceneAfter`), and where
the journey of a verdict ends it shows this verdict (`framesFrom_sceneAfter_concluded`).
-/

namespace Acceptor

/-- The symbol at which a run got stuck. -/
def Verdict.missing? (verdict : Verdict) : Option Symbol :=
  match verdict.outcome with
  | .stuck _ symbol => some symbol
  | .accepted => none
  | .notAccepting _ => none

namespace Automaton

/-- The identifier of the edge that a transition travels. -/
def edgeOf (model : Automaton) (step : Transition) : Option EdgeId :=
  (model.projection.edgeBetween? step.source step.target).map Edge.id

/-- The identifiers of the edges that some transitions travel, with repetitions. -/
def travelled (model : Automaton) (steps : List Transition) : List EdgeId :=
  steps.filterMap model.edgeOf

/-- The frame of a transition on its way, after some others. -/
def departure (model : Automaton) (done : List Transition) (step : Transition) : Frame where
  sequence := 2 * done.length + 2
  kind := .edge
  state := step.source
  consumed := done.length
  symbol := some step.symbol
  edge := model.edgeOf step
  nodes := activeMarks (model.visited done)
  edges := activeMarks (model.travelled (done ++ [step]))
  verdict := none

/-- The frame of a transition that has arrived, after some others. -/
def arrival (model : Automaton) (done : List Transition) (step : Transition) : Frame where
  sequence := 2 * done.length + 3
  kind := .state
  state := step.target
  consumed := done.length + 1
  symbol := some step.symbol
  edge := model.edgeOf step
  nodes := activeMarks (model.visited (done ++ [step]))
  edges := activeMarks (model.travelled (done ++ [step]))
  verdict := none

/-- The frames of some transitions after some others. -/
def story (model : Automaton) : List Transition → List Transition → List Frame
  | _, [] => []
  | done, step :: rest =>
    model.departure done step :: model.arrival done step :: model.story (done ++ [step]) rest

/-- The scene after some transitions and their frames. -/
def sceneAfter (model : Automaton) (done : List Transition) : Scene where
  produced := 2 * done.length + 1
  state := model.stateAfter done
  steps := done
  nodes := activeMarks (model.visited done)
  edges := activeMarks (model.travelled done)

/-- The frame with a verdict. The state in which the run ended is coloured by the verdict, unless
the input is empty. -/
def closing (model : Automaton) (symbols : List Symbol) (verdict : Verdict) : Frame where
  sequence := 2 * verdict.steps.length + 2
  kind := if verdict.accepted then .accepted else .rejected
  state := verdict.state
  consumed := verdict.steps.length
  symbol := verdict.missing?
  edge := none
  nodes :=
    if symbols.isEmpty then activeMarks (model.visited verdict.steps)
    else recoloured (activeMarks (model.visited verdict.steps)) verdict.state
      (if verdict.accepted then .accepted else .rejected)
  edges := activeMarks (model.travelled verdict.steps)
  verdict := some verdict

end Automaton

variable {model : Automaton} {state last : StateId} {symbols left : List Symbol}
  {done steps : List Transition}

namespace Automaton

/-- A transition of an automaton travels an edge of its projection. -/
theorem edgeOf_of_target? (valid : model.Valid) {source target : StateId} {symbol : Symbol}
    (found : model.target? source symbol = some target) :
    ∃ edge, model.projection.edgeBetween? source target = some edge ∧
      model.edgeOf ⟨source, symbol, target⟩ = some edge.id := by
  have member := (target?_eq_some_iff valid.keysDistinct).mp found
  obtain ⟨edge, between⟩ := exists_edgeBetween member
  refine ⟨edge, between, ?_⟩
  rw [edgeOf, between]
  rfl

/-- After one more transition its edge is travelled as well. -/
theorem travelled_concat {id : EdgeId} {step : Transition} (edge : model.edgeOf step = some id) :
    model.travelled (done ++ [step]) = model.travelled done ++ [id] := by
  simp [travelled, edge]

/-- One transition leads from scene to scene: the loop shows its two frames and goes on. -/
theorem framesFrom_sceneAfter_cons (valid : model.Valid) (emptyAccepts : Bool) {symbol : Symbol}
    {target : StateId} (found : model.target? (model.stateAfter done) symbol = some target)
    (rest : List Symbol) :
    model.framesFrom model.projection emptyAccepts (model.sceneAfter done) (symbol :: rest) =
      model.departure done ⟨model.stateAfter done, symbol, target⟩ ::
        model.arrival done ⟨model.stateAfter done, symbol, target⟩ ::
          model.framesFrom model.projection emptyAccepts
            (model.sceneAfter (done ++ [⟨model.stateAfter done, symbol, target⟩])) rest := by
  obtain ⟨edge, between, edgeOf⟩ := edgeOf_of_target? valid found
  have edgeFor : model.projection.edgeFor? (model.stateAfter done) symbol = some edge := by
    rw [edgeFor?_eq_edgeBetween? valid.keysDistinct found, between]
  have edges := put_active (model.travelled done) edge.id
  rw [← travelled_concat edgeOf] at edges
  have nodes := put_active (model.visited done) target
  have length : (done ++ [(⟨model.stateAfter done, symbol, target⟩ : Transition)]).length =
      done.length + 1 := by simp
  rw [framesFrom]
  simp only [sceneAfter, found, edgeFor, Option.map_some, Scene.depart, Scene.arrive, Scene.frame,
    Scene.shown, edges, nodes, departure, arrival, edgeOf, visited_concat, stateAfter_concat,
    length]
  rfl

/-- Along a journey the loop shows the frames of its transitions and goes on where it ends. -/
theorem framesFrom_sceneAfter (valid : model.Valid) (emptyAccepts : Bool)
    (journey : Journey model state symbols steps last left)
    (reached : model.stateAfter done = state) :
    model.framesFrom model.projection emptyAccepts (model.sceneAfter done) symbols =
      model.story done steps ++ model.framesFrom model.projection emptyAccepts
        (model.sceneAfter (done ++ steps)) left := by
  induction journey generalizing done with
  | halt => rw [List.append_nil, story, List.nil_append]
  | @move state symbol target rest steps last left found onward inductionHypothesis =>
    subst reached
    have moved := model.stateAfter_concat done ⟨model.stateAfter done, symbol, target⟩
    rw [framesFrom_sceneAfter_cons valid emptyAccepts found, inductionHypothesis moved, story,
      List.append_assoc]
    rfl

/-- Where the journey of a verdict ends, the loop shows this verdict. -/
theorem framesFrom_sceneAfter_concluded {emptyAccepts : Bool} {verdict : Verdict}
    (concluded : model.Concluded emptyAccepts symbols verdict left) :
    model.framesFrom model.projection emptyAccepts (model.sceneAfter verdict.steps) left =
      [model.closing symbols verdict] := by
  obtain ⟨outcome, last, steps⟩ := verdict
  obtain ⟨journey, blocked, concluded⟩ := concluded
  simp only at journey blocked concluded
  obtain rfl : last = model.stateAfter steps := journey.last_eq model.stateAfter_nil
  subst concluded
  have here := put_of_mem (model.stateAfter_mem_visited steps)
  cases left with
  | cons symbol rest =>
    have nonempty : symbols.isEmpty = false := by simp [journey.symbols_eq]
    have missing : model.target? (model.stateAfter steps) symbol = none := blocked symbol rfl
    rw [framesFrom]
    simp only [sceneAfter, missing, nonempty, closing, outcomeAt, Scene.stuckFrame, Scene.recolour,
      Scene.frame, here, Verdict.accepted, Verdict.missing?]
    rfl
  | nil =>
    have unmoved : steps.isEmpty = symbols.isEmpty := by simp [journey.symbols_eq]
    rw [framesFrom]
    cases empty : symbols.isEmpty with
    | true =>
      obtain rfl : steps = [] := by simpa [empty] using unmoved
      cases emptyAccepts <;>
        simp [sceneAfter, Scene.lastFrame, Scene.frame, closing, Verdict.accepted, Verdict.missing?,
          empty]
    | false =>
      cases accepting : model.isAccepting (model.stateAfter steps) <;>
        simp [sceneAfter, Scene.lastFrame, Scene.frame, Scene.recolour, closing, outcomeAt,
          Verdict.accepted, Verdict.missing?, here, unmoved, empty, accepting]

/-- The frame before the first transition. -/
def opening (model : Automaton) : Frame where
  sequence := 1
  kind := .start
  state := model.initial
  consumed := 0
  symbol := none
  edge := none
  nodes := activeMarks [model.initial]
  edges := []
  verdict := none

/-- The frames of a run are those of the journey that its verdict concludes. -/
theorem frames_eq (valid : model.Valid) {emptyAccepts : Bool} {verdict : Verdict}
    (concluded : model.Concluded emptyAccepts symbols verdict left) :
    model.frames model.projection emptyAccepts symbols =
      (model.opening :: model.story [] verdict.steps) ++ [model.closing symbols verdict] := by
  have shown : model.frames model.projection emptyAccepts symbols =
      model.opening ::
        model.framesFrom model.projection emptyAccepts (model.sceneAfter []) symbols := rfl
  rw [shown, framesFrom_sceneAfter valid emptyAccepts concluded.journey stateAfter_nil,
    List.nil_append, framesFrom_sceneAfter_concluded concluded]
  rfl

theorem length_story (done steps : List Transition) :
    (model.story done steps).length = 2 * steps.length := by
  induction steps generalizing done with
  | nil => rfl
  | cons step rest inductionHypothesis =>
    rw [story, List.length_cons, List.length_cons, inductionHypothesis, List.length_cons]
    omega

/-- No frame of a transition carries a verdict. -/
theorem verdict_of_mem_story {frame : Frame} (member : frame ∈ model.story done steps) :
    frame.verdict = none := by
  induction steps generalizing done with
  | nil => cases member
  | cons step rest inductionHypothesis =>
    rw [story, List.mem_cons, List.mem_cons] at member
    rcases member with rfl | rfl | later
    · rfl
    · rfl
    · exact inductionHypothesis later

/-- The two frames of a transition stand at twice its place. -/
theorem story_getElem? {index : Nat} {step : Transition} (taken : steps[index]? = some step) :
    (model.story done steps)[2 * index]? =
        some (model.departure (done ++ steps.take index) step) ∧
      (model.story done steps)[2 * index + 1]? =
        some (model.arrival (done ++ steps.take index) step) := by
  induction steps generalizing done index with
  | nil => cases taken
  | cons first rest inductionHypothesis =>
    cases index with
    | zero =>
      obtain rfl := Option.some.inj taken
      rw [List.take_zero, List.append_nil]
      exact ⟨rfl, rfl⟩
    | succ index =>
      have later := @inductionHypothesis (done ++ [first]) index taken
      rw [List.append_assoc] at later
      exact later

/-- The frames of transitions are numbered on from those before them. -/
theorem sequence_of_story {frame : Frame} {index : Nat}
    (shown : (model.story done steps)[index]? = some frame) :
    frame.sequence = 2 * done.length + 2 + index := by
  induction steps generalizing done index with
  | nil => cases shown
  | cons step rest inductionHypothesis =>
    match index with
    | 0 =>
      obtain rfl := Option.some.inj shown
      rfl
    | 1 =>
      obtain rfl := Option.some.inj shown
      rfl
    | index + 2 =>
      have later := @inductionHypothesis (done ++ [step]) index shown
      rw [later, List.length_append, List.length_singleton]
      omega

end Automaton

end Acceptor
