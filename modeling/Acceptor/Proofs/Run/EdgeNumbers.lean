import Acceptor.Proofs.Automaton.Likeness
import Acceptor.Proofs.Run.Story

/-!
# Frames under other edge numbers

Edges are numbered in the order in which the transitions join their pairs first, so automata that
are the same up to the order of their transitions may number the same edges differently. A change of
numbers takes the edges of the one to those of the other (`renumbered_projection`), and it takes the
frames of a run on the one to the frames of the run on the other, which differ in nothing else
(`frames_of_same`).
-/

namespace Acceptor

/-- A frame with other identifiers for its edges. -/
def Frame.renumber (rename : EdgeId → EdgeId) (frame : Frame) : Frame :=
  { frame with
    edge := frame.edge.map rename
    edges := frame.edges.map fun mark => (rename mark.1, mark.2) }

/-- The same edge under another number, with its symbols in another order. -/
structure Edge.Renumbered (rename : EdgeId → EdgeId) (edge other : Edge) : Prop where
  id : other.id = rename edge.id
  source : other.source = edge.source
  target : other.target = edge.target
  symbols : edge.symbols.Perm other.symbols

/-- The same graph under other edge numbers: every edge is there in the other graph, every edge of
the other graph comes from one, and no two edges get the same number. -/
structure Projection.Renumbered (rename : EdgeId → EdgeId) (left right : Projection) : Prop where
  nodes : left.nodes = right.nodes
  taken : ∀ edge ∈ left.edges, ∃ other ∈ right.edges, edge.Renumbered rename other
  covered : ∀ other ∈ right.edges, ∃ edge ∈ left.edges, edge.Renumbered rename other
  apart : ∀ edge ∈ left.edges, ∀ edge' ∈ left.edges, rename edge.id = rename edge'.id → edge = edge'

namespace Automaton

variable {model left right : Automaton} {pair : StateId × StateId}

/-- The identifier of the edge between two states. -/
def edgeNumber (model : Automaton) (pair : StateId × StateId) : EdgeId :=
  ⟨model.joinedPairs.idxOf pair + 1⟩

/-- The number that an edge of one automaton has in another. -/
def renumbering (left right : Automaton) (id : EdgeId) : EdgeId :=
  (left.joinedPairs[id.number - 1]?).elim id right.edgeNumber

theorem mem_joinedPairs : pair ∈ model.joinedPairs ↔
    ∃ transition ∈ model.transitions, transition.ends = pair := by
  rw [joinedPairs, mem_distinct, List.mem_map]

theorem mem_edges_iff {edge : Edge} : edge ∈ model.projection.edges ↔
    ∃ pair ∈ model.joinedPairs,
      edge = ⟨model.edgeNumber pair, pair.1, pair.2, model.symbolsBetween pair⟩ := by
  have nodup : model.joinedPairs.Nodup := nodup_distinct _
  have numbered (index : Nat) (bound : index < model.joinedPairs.length) :
      model.edgeNumber model.joinedPairs[index] = ⟨index + 1⟩ := by
    rw [edgeNumber, nodup.idxOf_getElem index bound]
  rw [projection, List.mem_mapIdx]
  constructor
  · rintro ⟨index, bound, rfl⟩
    exact ⟨_, List.getElem_mem bound, by rw [numbered index bound]⟩
  · rintro ⟨pair, joined, rfl⟩
    obtain ⟨index, bound, rfl⟩ := List.getElem_of_mem joined
    exact ⟨index, bound, by rw [numbered index bound]⟩

theorem edgeNumber_injective {pair' : StateId × StateId} (joined : pair ∈ model.joinedPairs)
    (same : model.edgeNumber pair = model.edgeNumber pair') : pair = pair' := by
  have places : model.joinedPairs.idxOf pair = model.joinedPairs.idxOf pair' :=
    Nat.succ.inj (EdgeId.mk.inj same)
  exact (List.idxOf_inj joined).mp places

theorem renumbering_edgeNumber (right : Automaton) (joined : pair ∈ left.joinedPairs) :
    renumbering left right (left.edgeNumber pair) = right.edgeNumber pair := by
  have found : left.joinedPairs[left.joinedPairs.idxOf pair]? = some pair :=
    List.getElem?_idxOf joined
  simp [renumbering, edgeNumber, found]

/-- A transition travels the edge between its ends. -/
theorem edgeOf_eq {step : Transition} (joined : step.ends ∈ model.joinedPairs) :
    model.edgeOf step = some (model.edgeNumber step.ends) := by
  obtain ⟨source, symbol, target⟩ := step
  obtain ⟨⟨start, other, stop⟩, member, ends⟩ := mem_joinedPairs.mp joined
  obtain ⟨rfl, rfl⟩ := Prod.mk.inj ends
  obtain ⟨edge, between⟩ := exists_edgeBetween member
  have joins : edge.source = start ∧ edge.target = stop := by
    simpa using List.find?_some between
  obtain ⟨pair, -, rfl⟩ := mem_edges_iff.mp (List.mem_of_find?_eq_some between)
  obtain ⟨rfl, rfl⟩ := joins
  rw [edgeOf, between]
  rfl

theorem Same.mem_joinedPairs_iff (same : left.Same right) :
    pair ∈ left.joinedPairs ↔ pair ∈ right.joinedPairs := by
  simp only [mem_joinedPairs, same.transitions.mem_iff]

/-- Automata that are the same have the same graph under other edge numbers. -/
theorem renumbered_projection (same : left.Same right) :
    left.projection.Renumbered (renumbering left right) right.projection := by
  have symbols (pair : StateId × StateId) :
      (left.symbolsBetween pair).Perm (right.symbolsBetween pair) :=
    (same.transitions.filter _).map Transition.symbol
  refine ⟨?_, ?_, ?_, ?_⟩
  · obtain ⟨transitions, -, rfl⟩ := same.exists_eq
    rfl
  · intro edge member
    obtain ⟨pair, joined, rfl⟩ := mem_edges_iff.mp member
    exact ⟨_, mem_edges_iff.mpr ⟨pair, same.mem_joinedPairs_iff.mp joined, rfl⟩,
      (renumbering_edgeNumber right joined).symm, rfl, rfl, symbols pair⟩
  · intro other member
    obtain ⟨pair, joined, rfl⟩ := mem_edges_iff.mp member
    have joined := same.mem_joinedPairs_iff.mpr joined
    exact ⟨_, mem_edges_iff.mpr ⟨pair, joined, rfl⟩,
      (renumbering_edgeNumber right joined).symm, rfl, rfl, symbols pair⟩
  · intro edge member edge' member' sameNumber
    obtain ⟨pair, joined, rfl⟩ := mem_edges_iff.mp member
    obtain ⟨pair', joined', rfl⟩ := mem_edges_iff.mp member'
    rw [renumbering_edgeNumber right joined, renumbering_edgeNumber right joined'] at sameNumber
    obtain rfl := edgeNumber_injective (same.mem_joinedPairs_iff.mp joined) sameNumber
    rfl

theorem activeMarks_travelled {steps : List Transition}
    (joined : ∀ step ∈ steps, step.ends ∈ model.joinedPairs) :
    activeMarks (model.travelled steps) =
      (distinct (steps.map Transition.ends)).map fun pair => (model.edgeNumber pair, .active) := by
  have travelled : model.travelled steps = (steps.map Transition.ends).map model.edgeNumber := by
    rw [Automaton.travelled, List.map_map, ← List.filterMap_eq_map]
    exact List.filterMap_congr fun step member => edgeOf_eq (joined step member)
  have apart : ∀ pair ∈ steps.map Transition.ends, ∀ pair' ∈ steps.map Transition.ends,
      model.edgeNumber pair = model.edgeNumber pair' → pair = pair' := by
    intro pair member pair' _ sameNumber
    obtain ⟨step, taken, rfl⟩ := List.mem_map.mp member
    exact edgeNumber_injective (joined step taken) sameNumber
  rw [travelled, activeMarks, distinct_map apart, List.map_map]
  rfl

section Frames

variable {steps done : List Transition}

/-- The marks of travelled edges, and those of the same edges under their other numbers. -/
theorem marks_renumbered (same : left.Same right)
    (joined : ∀ step ∈ steps, step.ends ∈ left.joinedPairs) :
    activeMarks (right.travelled steps) = (activeMarks (left.travelled steps)).map fun mark =>
      (renumbering left right mark.1, mark.2) := by
  have joined' := fun step member => same.mem_joinedPairs_iff.mp (joined step member)
  rw [activeMarks_travelled joined, activeMarks_travelled joined', List.map_map]
  refine List.map_congr_left fun pair member => ?_
  obtain ⟨step, taken, rfl⟩ := List.mem_map.mp (mem_distinct.mp member)
  rw [Function.comp_apply, renumbering_edgeNumber right (joined step taken)]

theorem edgeOf_renumbered (same : left.Same right) {step : Transition}
    (joined : step.ends ∈ left.joinedPairs) :
    right.edgeOf step = (left.edgeOf step).map (renumbering left right) := by
  rw [edgeOf_eq joined, edgeOf_eq (same.mem_joinedPairs_iff.mp joined), Option.map_some,
    renumbering_edgeNumber right joined]

/-- The frames of transitions, one by one. -/
theorem story_renumbered (same : left.Same right)
    (joined : ∀ step ∈ done ++ steps, step.ends ∈ left.joinedPairs) :
    right.story done steps =
      (left.story done steps).map (Frame.renumber (renumbering left right)) := by
  have visited (steps : List Transition) : right.visited steps = left.visited steps := by
    rw [Automaton.visited, Automaton.visited, same.initial]
  induction steps generalizing done with
  | nil => rfl
  | cons step rest inductionHypothesis =>
    have edge := edgeOf_renumbered same (joined step (by simp))
    have whole : done ++ step :: rest = done ++ [step] ++ rest := by simp
    rw [whole] at joined
    have marks := marks_renumbered same fun other (member : other ∈ done ++ [step]) =>
      joined other (List.mem_append_left rest member)
    have onward := @inductionHypothesis (done ++ [step]) joined
    rw [story, story, List.map_cons, List.map_cons, onward]
    simp only [departure, arrival, Frame.renumber, visited, edge, marks]

/-- The transitions of a journey join pairs of states. -/
theorem joined_of_journey (valid : model.Valid) {state last : StateId} {symbols rest : List Symbol}
    (journey : Journey model state symbols steps last rest) :
    ∀ step ∈ steps, step.ends ∈ model.joinedPairs := by
  induction journey with
  | halt => nofun
  | move found onward inductionHypothesis =>
    have member := (target?_eq_some_iff valid.keysDistinct).mp found
    exact List.forall_mem_cons.mpr ⟨mem_joinedPairs.mpr ⟨_, member, rfl⟩, inductionHypothesis⟩

/-- Runs on automata that are the same show the same frames under other edge numbers. -/
theorem frames_of_same (same : left.Same right) (valid : left.Valid) (emptyAccepts : Bool)
    (symbols : List Symbol) :
    right.frames right.projection emptyAccepts symbols =
      (left.frames left.projection emptyAccepts symbols).map
        (Frame.renumber (renumbering left right)) := by
  obtain ⟨rest, concluded⟩ := left.exists_concluded_check emptyAccepts symbols
  obtain ⟨rest', concluded'⟩ := right.exists_concluded_check emptyAccepts symbols
  rw [frames_eq valid concluded, frames_eq (valid.of_same same) concluded',
    ← same.check_eq valid emptyAccepts symbols]
  have joined := joined_of_journey valid concluded.journey
  generalize left.check emptyAccepts symbols = verdict at joined ⊢
  have visited : right.visited verdict.steps = left.visited verdict.steps := by
    rw [Automaton.visited, Automaton.visited, same.initial]
  have opening : right.opening = left.opening.renumber (renumbering left right) := by
    rw [Automaton.opening, Automaton.opening, same.initial]
    rfl
  have closing : right.closing symbols verdict =
      (left.closing symbols verdict).renumber (renumbering left right) := by
    simp only [Automaton.closing, Frame.renumber, visited, marks_renumbered same joined]
    rfl
  rw [opening, story_renumbered same joined, closing, List.map_append, List.map_cons]
  rfl

end Frames

end Automaton

end Acceptor
