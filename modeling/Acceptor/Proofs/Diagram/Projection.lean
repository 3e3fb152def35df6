import Acceptor.Diagram.Projection
import Acceptor.Proofs.Automaton.Validity
import Mathlib.Data.List.Find

/-!
# Edges and transitions

A projection has an edge between two states exactly if a transition joins them. Where no key has
two transitions, the edge that leaves a state on a symbol is the edge to the target of this
transition (`edgeFor?_eq_edgeBetween?`), even where the edge stands for several transitions.
-/

namespace Acceptor.Automaton

variable {model : Automaton} {source target : StateId} {symbol : Symbol}

/-- An edge joins a pair of states that transitions join, and lists the symbols between them. -/
theorem mem_edges {edge : Edge} (member : edge ∈ model.projection.edges) :
    (edge.source, edge.target) ∈ model.transitions.map Transition.ends ∧
      edge.symbols = model.symbolsBetween (edge.source, edge.target) := by
  obtain ⟨index, bound, rfl⟩ := List.mem_mapIdx.mp member
  exact ⟨mem_distinct.mp (List.getElem_mem bound), rfl⟩

/-- The symbols between two states are those of the transitions that join them. -/
theorem mem_symbolsBetween :
    symbol ∈ model.symbolsBetween (source, target) ↔
      ⟨source, symbol, target⟩ ∈ model.transitions := by
  unfold symbolsBetween
  rw [List.mem_map]
  constructor
  · rintro ⟨transition, kept, rfl⟩
    obtain ⟨member, joins⟩ := List.mem_filter.mp kept
    obtain ⟨rfl, rfl⟩ := Prod.mk.inj (eq_of_beq joins)
    exact member
  · intro member
    exact ⟨_, List.mem_filter.mpr ⟨member, beq_self_eq_true _⟩, rfl⟩

/-- Two states that a transition joins have an edge between them. -/
theorem exists_edgeBetween (member : ⟨source, symbol, target⟩ ∈ model.transitions) :
    ∃ edge, model.projection.edgeBetween? source target = some edge := by
  rw [← Option.isSome_iff_exists, Projection.edgeBetween?, List.find?_isSome]
  have joined : (source, target) ∈ model.joinedPairs :=
    mem_distinct.mpr (List.mem_map.mpr ⟨_, member, rfl⟩)
  obtain ⟨index, bound, same⟩ := List.getElem_of_mem joined
  refine ⟨_, List.mem_mapIdx.mpr ⟨index, bound, rfl⟩, ?_⟩
  simp [same]

/-- The edge that leaves a state on a symbol is the edge to the target. -/
theorem edgeFor?_eq_edgeBetween? (keysDistinct : (model.transitions.map Transition.key).Nodup)
    (found : model.target? source symbol = some target) :
    model.projection.edgeFor? source symbol = model.projection.edgeBetween? source target := by
  have agree : ∀ edge ∈ model.projection.edges,
      (edge.source == source && edge.symbols.contains symbol) =
        (edge.source == source && edge.target == target) := by
    intro edge member
    obtain ⟨-, symbols⟩ := mem_edges member
    rw [symbols, Bool.eq_iff_iff, Bool.and_eq_true, Bool.and_eq_true, List.contains_iff_mem,
      mem_symbolsBetween, beq_iff_eq, beq_iff_eq]
    refine and_congr_right ?_
    rintro rfl
    rw [← target?_eq_some_iff keysDistinct, found, Option.some.injEq, eq_comm]
  exact List.find?_congr agree

end Acceptor.Automaton
