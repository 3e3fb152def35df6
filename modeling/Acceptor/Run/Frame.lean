import Acceptor.Diagram.Projection
import Acceptor.Run.Verdict

/-!
# The frames of a run

A run shown picture by picture: a first frame at the initial state, two for every transition (the
edge on its way, the state on arrival), and a last one that carries the verdict. Every frame holds
the marks of all nodes and edges reached so far, in the order in which they were first marked. The
frames are produced from the graph and the transitions, not from the verdict of a check; that both
agree is a theorem.
-/

namespace Acceptor

/-- What a frame shows. -/
inductive FrameKind where
  | start
  | edge
  | state
  | accepted
  | rejected
  deriving DecidableEq, Repr

/-- How a node or an edge is marked. -/
inductive Highlight where
  | active
  | accepted
  | rejected
  deriving DecidableEq, Repr

/-- Marks in the order in which they were first set. -/
abbrev Marks (α : Type) := List (α × Highlight)

/-- Sets a mark. What is marked already keeps its place. -/
def Marks.put {α : Type} [BEq α] (marks : Marks α) (place : α) (highlight : Highlight) : Marks α :=
  if marks.any (·.1 == place) then
    marks.map fun mark => if mark.1 == place then (place, highlight) else mark
  else marks ++ [(place, highlight)]

/-- The mark of a place. -/
def Marks.at? {α : Type} [BEq α] (marks : Marks α) (place : α) : Option Highlight :=
  marks.lookup place

/-- One picture of a run. -/
structure Frame where
  sequence : Nat
  kind : FrameKind
  state : StateId
  consumed : Nat
  symbol : Option Symbol
  edge : Option EdgeId
  nodes : Marks StateId
  edges : Marks EdgeId
  verdict : Option Verdict
  deriving DecidableEq, Repr

/-- The last frame of a run is the one that carries a verdict. -/
def Frame.terminal (frame : Frame) : Bool :=
  frame.verdict.isSome

/-- Where a shown run stands: the frames produced so far, the current state, the transitions taken
and the marks set. -/
structure Scene where
  produced : Nat
  state : StateId
  steps : List Transition
  nodes : Marks StateId
  edges : Marks EdgeId
  deriving DecidableEq, Repr

namespace Scene

/-- The scene of a run that has not moved yet. -/
def opening (model : Automaton) : Scene :=
  ⟨0, model.initial, [], Marks.put [] model.initial .active, []⟩

/-- The next picture of a scene. -/
def frame (scene : Scene) (kind : FrameKind) (symbol : Option Symbol) (edge : Option EdgeId)
    (verdict : Option Verdict) : Frame :=
  ⟨scene.produced + 1, kind, scene.state, scene.steps.length, symbol, edge, scene.nodes,
    scene.edges, verdict⟩

/-- The scene while an edge is travelled, before the next state is reached. -/
def depart (scene : Scene) (edge : Option EdgeId) : Scene :=
  match edge with
  | none => scene
  | some id => { scene with edges := Marks.put scene.edges id .active }

/-- The scene after a transition has been taken and its edge has been shown. -/
def arrive (scene : Scene) (step : Transition) : Scene :=
  { scene with
    produced := scene.produced + 1
    state := step.target
    steps := scene.steps ++ [step]
    nodes := Marks.put scene.nodes step.target .active }

/-- The scene after one more picture. -/
def shown (scene : Scene) : Scene :=
  { scene with produced := scene.produced + 1 }

/-- The scene with the current state marked anew. -/
def recolour (scene : Scene) (highlight : Highlight) : Scene :=
  { scene with nodes := Marks.put scene.nodes scene.state highlight }

/-- The last picture of a run that met a symbol without a transition. -/
def stuckFrame (scene : Scene) (symbol : Symbol) : Frame :=
  let verdict : Verdict := ⟨.stuck scene.steps.length symbol, scene.state, scene.steps⟩
  (scene.recolour .rejected).frame .rejected (some symbol) none (some verdict)

/-- The last picture of a run through the whole input. The state it ends in is coloured unless the
input was empty, since then the verdict is not about that state. -/
def lastFrame (model : Automaton) (emptyAccepts : Bool) (scene : Scene) : Frame :=
  let unmoved := scene.steps.isEmpty
  let accepted := if unmoved then emptyAccepts else model.isAccepting scene.state
  let outcome := if accepted then .accepted else .notAccepting scene.steps.length
  let final :=
    if unmoved then scene else scene.recolour (if accepted then .accepted else .rejected)
  final.frame (if accepted then .accepted else .rejected) none none
    (some ⟨outcome, scene.state, scene.steps⟩)

end Scene

namespace Automaton

/-- The frames of a run from a scene on. -/
def framesFrom (model : Automaton) (picture : Projection) (emptyAccepts : Bool) (scene : Scene) :
    List Symbol → List Frame
  | [] => [scene.lastFrame model emptyAccepts]
  | symbol :: rest =>
    match model.target? scene.state symbol with
    | none => [scene.stuckFrame symbol]
    | some target =>
      let edge := (picture.edgeFor? scene.state symbol).map Edge.id
      let departed := scene.depart edge
      let arrived := departed.arrive ⟨scene.state, symbol, target⟩
      departed.frame .edge (some symbol) edge none ::
        arrived.frame .state (some symbol) edge none ::
          model.framesFrom picture emptyAccepts arrived.shown rest

/-- All frames of a run. -/
def frames (model : Automaton) (picture : Projection) (emptyAccepts : Bool)
    (symbols : List Symbol) : List Frame :=
  let scene := Scene.opening model
  scene.frame .start none none none ::
    model.framesFrom picture emptyAccepts scene.shown symbols

end Automaton

end Acceptor
