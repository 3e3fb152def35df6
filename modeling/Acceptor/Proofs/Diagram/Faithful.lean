import Acceptor.Proofs.Diagram.Projection
import Acceptor.Proofs.Distinct
import Mathlib.Data.List.Induction

/-!
# What a projection keeps

The edges of a projection are the bundles that arise when the transitions are gathered one by one
(`Bundle.foldl_gather`), each symbol going to the bundle of its pair of states. Read back, they are
the transitions again: none is lost, none is there twice, and each is found by its state and symbol
(`faithful_projection`). The last point rests on the keys of the transitions being distinct; where
two transitions had the same key, the first of two edges would hide the other.
-/

namespace Acceptor

/-- The pair of states that an edge joins. -/
def Edge.ends (edge : Edge) : StateId × StateId :=
  (edge.source, edge.target)

/-- The transitions that an edge stands for. -/
def Edge.transitions (edge : Edge) : List Transition :=
  edge.symbols.map fun symbol => ⟨edge.source, symbol, edge.target⟩

/-- The symbols that have been gathered for a pair of states. -/
structure Bundle where
  ends : StateId × StateId
  symbols : List Symbol

namespace Bundle

/-- One more symbol, unless the bundle has it. -/
def insert (symbol : Symbol) (bundle : Bundle) : Bundle :=
  if bundle.symbols.contains symbol then bundle
  else { bundle with symbols := bundle.symbols ++ [symbol] }

/-- Gathers a transition. Its bundle is opened at the end if no transition between its states has
been gathered before. -/
def gather (bundles : List Bundle) (transition : Transition) : List Bundle :=
  if bundles.any (·.ends == transition.ends) then
    bundles.map fun bundle =>
      if bundle.ends == transition.ends then bundle.insert transition.symbol else bundle
  else bundles ++ [⟨transition.ends, [transition.symbol]⟩]

/-- The bundle of a pair of states: the symbols of all transitions between the two. -/
def between (transitions : List Transition) (ends : StateId × StateId) : Bundle :=
  ⟨ends, (transitions.filter (·.ends == ends)).map Transition.symbol⟩

/-- The bundles of all pairs that are joined, in the order in which they are joined first. -/
def ofTransitions (transitions : List Transition) : List Bundle :=
  (distinct (transitions.map Transition.ends)).map (between transitions)

variable {transitions : List Transition} {transition : Transition} {ends : StateId × StateId}

theorem between_concat_of_ne (different : ends ≠ transition.ends) :
    between (transitions ++ [transition]) ends = between transitions ends := by
  have other : (transition.ends == ends) = false := beq_eq_false_iff_ne.mpr different.symm
  simp [between, List.filter_append, other]

theorem between_concat_self :
    between (transitions ++ [transition]) transition.ends =
      ⟨transition.ends, (between transitions transition.ends).symbols ++ [transition.symbol]⟩ := by
  simp [between, List.filter_append]

/-- The symbol of a transition with a new key is not in the bundle yet. -/
theorem insert_between (fresh : transition.key ∉ transitions.map Transition.key) :
    (between transitions transition.ends).insert transition.symbol =
      between (transitions ++ [transition]) transition.ends := by
  have absent : transition.symbol ∉ (between transitions transition.ends).symbols := by
    intro present
    obtain ⟨earlier, kept, sameSymbol⟩ := List.mem_map.mp present
    obtain ⟨member, sameEnds⟩ := List.mem_filter.mp kept
    have sameSource : earlier.source = transition.source :=
      congrArg Prod.fst (eq_of_beq sameEnds)
    exact fresh (List.mem_map.mpr ⟨earlier, member, Prod.ext sameSource sameSymbol⟩)
  rw [insert, if_neg (by simpa using absent), between_concat_self]
  rfl

/-- Gathering one more transition. -/
theorem gather_ofTransitions (fresh : transition.key ∉ transitions.map Transition.key) :
    gather (ofTransitions transitions) transition =
      ofTransitions (transitions ++ [transition]) := by
  have opened : (ofTransitions transitions).any (·.ends == transition.ends) = true ↔
      transition.ends ∈ transitions.map Transition.ends := by
    simp [ofTransitions, between, mem_distinct]
  have further : ofTransitions (transitions ++ [transition]) =
      (if transition.ends ∈ transitions.map Transition.ends
        then distinct (transitions.map Transition.ends)
        else distinct (transitions.map Transition.ends) ++ [transition.ends]).map
        (between (transitions ++ [transition])) := by
    rw [ofTransitions, List.map_append, List.map_singleton, distinct_concat]
  rw [gather, further]
  by_cases joined : transition.ends ∈ transitions.map Transition.ends
  · rw [if_pos (opened.mpr joined), if_pos joined, ofTransitions, List.map_map]
    refine List.map_congr_left fun ends _ => ?_
    by_cases same : ends = transition.ends
    · subst same
      rw [← insert_between fresh, Function.comp_apply]
      exact if_pos (beq_self_eq_true _)
    · rw [between_concat_of_ne same, Function.comp_apply]
      exact if_neg fun equal => same (eq_of_beq equal)
  · rw [if_neg fun any => joined (opened.mp any), if_neg joined, ofTransitions, List.map_append,
      List.map_singleton, between_concat_self]
    have unopened : (between transitions transition.ends).symbols = [] := by
      refine List.map_eq_nil_iff.mpr (List.filter_eq_nil_iff.mpr fun earlier member same => ?_)
      exact joined (List.mem_map.mpr ⟨earlier, member, eq_of_beq same⟩)
    rw [unopened, List.nil_append]
    congr 1
    refine List.map_congr_left fun ends member => (between_concat_of_ne ?_).symm
    rintro rfl
    exact joined (mem_distinct.mp member)

/-- What is gathered from transitions with distinct keys. -/
theorem foldl_gather (keysDistinct : (transitions.map Transition.key).Nodup) :
    transitions.foldl gather [] = ofTransitions transitions := by
  induction transitions using List.reverseRecOn with
  | nil => rfl
  | append_singleton transitions transition inductionHypothesis =>
    rw [List.map_append, List.map_singleton, List.nodup_append] at keysDistinct
    obtain ⟨before, -, apart⟩ := keysDistinct
    have fresh : transition.key ∉ transitions.map Transition.key := fun member =>
      apart _ member _ (List.mem_singleton_self _) rfl
    rw [List.foldl_concat, inductionHypothesis before, gather_ofTransitions fresh]

end Bundle

/-- A projection says what its automaton says, no more and no less. -/
structure Projection.Faithful (picture : Projection) (model : Automaton) : Prop where
  /-- The nodes are the states, in order, -/
  nodes : picture.nodes.map (fun node => (⟨node.id, node.label, node.accepting⟩ : State)) =
    model.states
  /-- and exactly one of them is marked as the initial one. -/
  initial : (picture.nodes.filter Node.initial).map Node.id = [model.initial]
  /-- The edges are what is gathered from the transitions. -/
  gathered : picture.edges = (model.transitions.foldl Bundle.gather []).mapIdx fun index bundle =>
    ⟨⟨index + 1⟩, bundle.ends.1, bundle.ends.2, bundle.symbols⟩
  /-- No two edges join the same pair of states. -/
  apart : (picture.edges.map Edge.ends).Nodup
  /-- They are numbered from one, in the order in which their pairs are joined first. -/
  numbered : picture.edges.map (·.id.name) =
    (List.range picture.edges.length).map fun index => "e" ++ toString (index + 1)
  ordered : (picture.edges.map Edge.ends).Pairwise fun left right =>
    (model.transitions.map Transition.ends).idxOf left <
      (model.transitions.map Transition.ends).idxOf right
  /-- Each edge lists some symbols, each once and in the order of their transitions. -/
  symbols : ∀ edge ∈ picture.edges, edge.symbols ≠ [] ∧ edge.symbols.Nodup ∧
    edge.transitions.Sublist model.transitions
  /-- All edges together stand for the transitions. -/
  transitions : (picture.edges.flatMap Edge.transitions).Perm model.transitions
  /-- Where no transition leaves a state on a symbol, no edge does, -/
  missing : ∀ source symbol,
    picture.edgeFor? source symbol = none ↔ model.target? source symbol = none
  /-- and otherwise there is one edge only that does, and it leads to the target. -/
  leaving : ∀ source symbol edge, picture.edgeFor? source symbol = some edge →
    (∀ other, (other ∈ picture.edges ∧ other.source = source ∧ symbol ∈ other.symbols) ↔
      other = edge) ∧
    model.target? source symbol = some edge.target ∧
    picture.edgeBetween? source edge.target = some edge

namespace Automaton

variable {model : Automaton} {source : StateId} {symbol : Symbol} {edge other : Edge}

/-- Each joined pair of states has one edge, in order. -/
theorem ends_edges (model : Automaton) :
    model.projection.edges.map Edge.ends = model.joinedPairs := by
  refine List.ext_getElem (by simp [projection]) fun index _ _ => ?_
  simp [projection, Edge.ends]

/-- An edge stands for the transitions between its states, in order. -/
theorem transitions_of_edge (member : edge ∈ model.projection.edges) :
    edge.transitions = model.transitions.filter (·.ends == edge.ends) := by
  rw [Edge.transitions, (mem_edges member).2, symbolsBetween, List.map_map]
  refine (List.map_congr_left fun transition kept => ?_).trans (List.map_id _)
  obtain ⟨sameSource, sameTarget⟩ := Prod.mk.inj (eq_of_beq (List.mem_filter.mp kept).2)
  rw [Function.comp_apply, ← sameSource, ← sameTarget]
  rfl

/-- An edge lists the symbols of the transitions that it stands for: at least one, each once, and
in order. -/
theorem symbols_of_edge (nodup : model.transitions.Nodup)
    (member : edge ∈ model.projection.edges) :
    edge.symbols ≠ [] ∧ edge.symbols.Nodup ∧ edge.transitions.Sublist model.transitions := by
  have bundle := transitions_of_edge member
  have once : edge.transitions.Nodup := bundle ▸ nodup.filter _
  refine ⟨?_, once.of_map _, bundle ▸ List.filter_sublist⟩
  obtain ⟨joined, -⟩ := mem_edges member
  obtain ⟨transition, there, sameEnds⟩ := List.mem_map.mp joined
  have kept : transition ∈ model.transitions.filter (·.ends == edge.ends) :=
    List.mem_filter.mpr ⟨there, beq_iff_eq.mpr sameEnds⟩
  intro empty
  rw [← bundle, Edge.transitions, empty] at kept
  cases kept

/-- A symbol stands at an edge exactly if a transition on it joins the same states. -/
theorem mem_symbols_of_edge (member : edge ∈ model.projection.edges) :
    symbol ∈ edge.symbols ↔ ⟨edge.source, symbol, edge.target⟩ ∈ model.transitions := by
  rw [(mem_edges member).2, mem_symbolsBetween]

/-- An edge that leaves a state on a symbol leads to the target. -/
theorem target?_of_edge (keysDistinct : (model.transitions.map Transition.key).Nodup)
    (member : edge ∈ model.projection.edges) (listed : symbol ∈ edge.symbols) :
    model.target? edge.source symbol = some edge.target :=
  (target?_eq_some_iff keysDistinct).mpr ((mem_symbols_of_edge member).mp listed)

/-- The edges of a projection stand for the transitions, each of them once. -/
theorem perm_transitions_of_edges (nodup : model.transitions.Nodup) :
    (model.projection.edges.flatMap Edge.transitions).Perm model.transitions := by
  have bundled : model.projection.edges.flatMap Edge.transitions =
      model.joinedPairs.flatMap fun ends => model.transitions.filter (·.ends == ends) := by
    rw [List.flatMap_congr fun edge member => transitions_of_edge member, ← ends_edges,
      List.flatMap_map]
  have once : (model.joinedPairs.flatMap fun ends =>
      model.transitions.filter (·.ends == ends)).Nodup := by
    refine List.nodup_flatMap.mpr ⟨fun ends _ => nodup.filter _, ?_⟩
    refine (nodup_distinct _).imp ?_
    intro left right different transition inLeft inRight
    have sameLeft := eq_of_beq (List.mem_filter.mp inLeft).2
    have sameRight := eq_of_beq (List.mem_filter.mp inRight).2
    exact different (sameLeft.symm.trans sameRight)
  rw [bundled, List.perm_ext_iff_of_nodup once nodup]
  intro transition
  rw [List.mem_flatMap]
  constructor
  · rintro ⟨ends, -, kept⟩
    exact (List.mem_filter.mp kept).1
  · intro member
    exact ⟨transition.ends, mem_distinct.mpr (List.mem_map_of_mem member),
      List.mem_filter.mpr ⟨member, beq_self_eq_true _⟩⟩

/-- No edge leaves a state on a symbol exactly if no transition does. -/
theorem edgeFor?_eq_none_iff (keysDistinct : (model.transitions.map Transition.key).Nodup) :
    model.projection.edgeFor? source symbol = none ↔ model.target? source symbol = none := by
  constructor
  · intro missing
    cases found : model.target? source symbol with
    | none => rfl
    | some target =>
      obtain ⟨edge, between⟩ := exists_edgeBetween ((target?_eq_some_iff keysDistinct).mp found)
      rw [edgeFor?_eq_edgeBetween? keysDistinct found, between] at missing
      cases missing
  · intro stuck
    cases found : model.projection.edgeFor? source symbol with
    | none => rfl
    | some edge =>
      have leaves : edge.source = source ∧ symbol ∈ edge.symbols := by
        simpa using List.find?_some found
      obtain ⟨rfl, listed⟩ := leaves
      have leads := target?_of_edge keysDistinct (List.mem_of_find?_eq_some found) listed
      cases stuck.symm.trans leads

/-- Two edges that leave the same state on the same symbol are the same edge. -/
theorem edge_unique (keysDistinct : (model.transitions.map Transition.key).Nodup)
    (member : edge ∈ model.projection.edges) (member' : other ∈ model.projection.edges)
    (sameSource : other.source = edge.source) (listed : symbol ∈ edge.symbols)
    (listed' : symbol ∈ other.symbols) : other = edge := by
  have leads := target?_of_edge keysDistinct member listed
  have leads' := target?_of_edge keysDistinct member' listed'
  rw [sameSource, leads, Option.some.injEq] at leads'
  have apart : (model.projection.edges.map Edge.ends).Nodup := by
    rw [ends_edges]
    exact nodup_distinct _
  exact List.inj_on_of_nodup_map apart member' member (Prod.ext sameSource leads'.symm)

/-- One node is marked as initial, that of the initial state. -/
theorem initial_nodes (idsDistinct : model.ids.Nodup) (initialKnown : model.initial ∈ model.ids) :
    (model.projection.nodes.filter Node.initial).map Node.id = [model.initial] := by
  have marked : (model.projection.nodes.filter Node.initial).map Node.id =
      model.ids.filter (· == model.initial) := by
    rw [projection, ids, List.filter_map, List.filter_map, List.map_map]
    rfl
  rw [marked, List.filter_beq, List.count_eq_one_of_mem idsDistinct initialKnown,
    List.replicate_one]

/-- The projection of a valid automaton says what the automaton says. -/
theorem faithful_projection (valid : model.Valid) : model.projection.Faithful model := by
  have nodup : model.transitions.Nodup := valid.keysDistinct.of_map _
  refine ⟨?_, initial_nodes valid.idsDistinct valid.initialKnown, ?_, ?_, ?_, ?_, ?_,
    perm_transitions_of_edges nodup, ?_, ?_⟩
  · rw [projection, List.map_map]
    exact List.map_id _
  · rw [Bundle.foldl_gather valid.keysDistinct]
    refine List.ext_getElem (by simp [projection, joinedPairs, Bundle.ofTransitions]) ?_
    intro index _ _
    simp [projection, joinedPairs, symbolsBetween, Bundle.ofTransitions, Bundle.between]
  · rw [ends_edges]
    exact nodup_distinct _
  · refine List.ext_getElem (by simp) fun index _ _ => ?_
    simp [projection, EdgeId.name]
  · rw [ends_edges]
    exact pairwise_idxOf_distinct _
  · exact fun edge member => symbols_of_edge nodup member
  · exact fun source symbol => edgeFor?_eq_none_iff valid.keysDistinct
  · intro source symbol edge found
    have member := List.mem_of_find?_eq_some found
    have leaves : edge.source = source ∧ symbol ∈ edge.symbols := by
      simpa using List.find?_some found
    obtain ⟨rfl, listed⟩ := leaves
    have leads := target?_of_edge valid.keysDistinct member listed
    refine ⟨fun other => ⟨?_, ?_⟩, leads, ?_⟩
    · rintro ⟨member', sameSource, listed'⟩
      exact edge_unique valid.keysDistinct member member' sameSource listed listed'
    · rintro rfl
      exact ⟨member, rfl, listed⟩
    · rw [← edgeFor?_eq_edgeBetween? valid.keysDistinct leads, found]

/-- Two ways to one state, with the way back installed between them. -/
def interleaved : Automaton where
  states := [⟨0, "q0", false⟩, ⟨1, "q1", true⟩]
  alphabet := ["a", "b"]
  transitions := [⟨0, "a", 1⟩, ⟨1, "a", 0⟩, ⟨0, "b", 1⟩]
  initial := 0

/-- The two ways are one edge, and it is found by either symbol. -/
theorem faithful_interleaved : interleaved.Valid ∧
    interleaved.projection.Faithful interleaved ∧
      interleaved.projection.edges.map (fun edge => (edge.id.name, edge.label)) =
        [("e1", "a, b"), ("e2", "a")] ∧
      interleaved.projection.edgeFor? 0 "b" = interleaved.projection.edgeBetween? 0 1 ∧
      interleaved.projection.edgeFor? 1 "b" = none := by
  have accepted : ofParts interleaved.states interleaved.alphabet interleaved.transitions
      interleaved.initial = .ok interleaved := rfl
  have valid := valid_of_ofParts accepted
  have faithful := faithful_projection valid
  refine ⟨valid, faithful, by decide, ?_, (faithful.missing 1 "b").mpr rfl⟩
  exact ((faithful.leaving 0 "b" _ rfl).2.2).symm

end Automaton

end Acceptor
