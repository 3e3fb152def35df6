import Acceptor.Diagram.Drawing
import Acceptor.Proofs.Diagram.Dot.Reading
import Acceptor.Proofs.Diagram.Projection
import Acceptor.Proofs.Spec.Quotation

/-!
# Drawings read back

Which drawings say what they were made of. All words of a drawing but the labels are plain, and a
plain word is read back as it is; so a drawing is read back as its statements exactly if the labels
of its nodes and edges are verbatim (`read_drawing_iff`), given that words are written by the rule
that is granted of the writer (`Dot.QuotingRule`). A label need not be verbatim: texts in angle
brackets and texts with an odd number of backslashes before a double quote or at their end can be
labels of a valid automaton, and its drawing then says something else, or nothing at all.
-/

namespace Acceptor

open Dot (Attribute Statement Verbatim)

namespace Dot

/-- A word with nothing in it that a reader could take for more than a character. -/
def Plain (word : String) : Prop :=
  ∀ c ∈ word.toList, c ≠ '\\' ∧ c ≠ '\n' ∧ c ≠ '<'

instance (word : String) : Decidable (Plain word) :=
  List.decidableBAll _ _

theorem Plain.verbatim {word : String} (plain : Plain word) : Verbatim word := by
  constructor
  · unfold isMarkup
    split
    · next cs written => exact absurd rfl (plain '<' (by simp [written])).2.2
    · rfl
  · exact keepsPairs_of_no_backslash fun member => (plain _ member).1 rfl

theorem Plain.oneLine {word : String} (plain : Plain word) : '\n' ∉ word.toList :=
  fun member => (plain _ member).2.1 rfl

/-- A number is written with digits only. -/
theorem plain_nat (number : Nat) : Plain (toString number) := by
  intro c member
  rw [Nat.toString_eq_ofList_toDigits, String.toList_ofList] at member
  have digit : c.isDigit = true := Nat.isDigit_of_mem_toDigits (by decide) (by decide) member
  refine ⟨?_, ?_, ?_⟩ <;> rintro rfl <;> cases digit

/-- An identifier may have a sign in front of its digits. -/
theorem plain_int (id : Int) : Plain (toString id) := by
  cases id with
  | ofNat number => exact plain_nat number
  | negSucc number =>
    intro c member
    have written : toString (Int.negSucc number) = "-" ++ toString (number + 1) := rfl
    rw [written, String.toList_append, List.mem_append] at member
    rcases member with sign | digit
    · obtain rfl := List.mem_singleton.mp sign
      decide
    · exact plain_nat _ c digit

end Dot

namespace Drawing

variable {marking : Marking}

theorem plain_preamble : ∀ word ∈ preamble.flatMap Statement.words, Dot.Plain word := by
  decide +kernel

theorem plain_nodeAttributes (node : Node) (mark : Option Highlight) :
    ∀ word ∈ (nodeAttributes node mark).flatMap Attribute.words, Dot.Plain word := by
  unfold nodeAttributes
  simp only [List.flatMap_append, List.forall_mem_append]
  refine ⟨⟨⟨?_, ?_⟩, ?_⟩, ?_⟩
  · split <;> decide +kernel
  · cases mark with
    | none => decide +kernel
    | some highlight => cases highlight <;> decide +kernel
  · have shape : Dot.Plain (if node.accepting then "doublecircle" else "circle") := by
      split <;> decide +kernel
    have names : Dot.Plain "penwidth" ∧ Dot.Plain "shape" := by decide +kernel
    simpa [Attribute.words, names, shape] using Dot.plain_nat node.emphasis
  · split <;> decide +kernel

theorem plain_edgeAttributes (marked : Bool) :
    ∀ word ∈ (edgeAttributes marked).flatMap Attribute.words, Dot.Plain word := by
  cases marked <;> decide +kernel

/-- The marker of the initial state and the edge from it. -/
def pointer (id : StateId) : List Statement :=
  [.node startMarker "" [⟨"height", "0"⟩, ⟨"shape", "none"⟩, ⟨"width", "0"⟩],
    .edge startMarker (toString id) "" []]

theorem plain_pointer (id : StateId) :
    ∀ word ∈ (pointer id).flatMap Statement.words, Dot.Plain word := by
  have front : ∀ word ∈ ["__start__", "label", "", "height", "0", "shape", "none", "width", "0",
      "__start__"], Dot.Plain word := by decide +kernel
  have back : ∀ word ∈ ["label", ""], Dot.Plain word := by decide +kernel
  intro word member
  have among : word ∈ ["__start__", "label", "", "height", "0", "shape", "none", "width", "0",
      "__start__"] ++ toString id :: ["label", ""] := member
  rcases List.mem_append.mp among with among | among
  · exact front word among
  · rcases List.mem_cons.mp among with rfl | among
    · exact Dot.plain_int id
    · exact back word among

section Words

variable {holds : String → Prop} (ofPlain : ∀ word, Dot.Plain word → holds word)
include ofPlain

theorem forall_node_words_iff (marking : Marking) (node : Node) :
    (∀ word ∈ (nodeStatements marking node).flatMap Statement.words, holds word) ↔
      holds node.label := by
  have id := ofPlain _ (Dot.plain_int node.id)
  have name := ofPlain "label" (by decide +kernel)
  have attributes := fun word member => ofPlain word
    (plain_nodeAttributes node (marking.nodes.at? node.id) word member)
  have marker : ∀ word ∈ (if node.initial then pointer node.id else []).flatMap Statement.words,
      holds word := by
    split
    · exact fun word member => ofPlain word (plain_pointer node.id word member)
    · nofun
  rw [nodeStatements, List.flatMap_cons, List.forall_mem_append]
  simp only [Statement.words, List.flatMap_cons, Attribute.words, List.cons_append,
    List.nil_append, List.forall_mem_cons, id, name, true_and]
  exact ⟨fun words => words.1.1, fun label => ⟨⟨label, attributes⟩, marker⟩⟩

theorem forall_edge_words_iff (marking : Marking) (edge : Edge) :
    (∀ word ∈ (edgeStatement marking edge).words, holds word) ↔ holds edge.label := by
  have tail := ofPlain _ (Dot.plain_int edge.source)
  have head := ofPlain _ (Dot.plain_int edge.target)
  have name := ofPlain "label" (by decide +kernel)
  have attributes := fun word member => ofPlain word
    (plain_edgeAttributes (marking.edges.at? edge.id).isSome word member)
  simp only [edgeStatement, Statement.words, List.flatMap_cons, Attribute.words, List.cons_append,
    List.nil_append, List.forall_mem_cons, tail, head, name, true_and]
  exact ⟨fun words => words.1, fun label => ⟨label, attributes⟩⟩

/-- What holds of plain words holds of all words of a drawing exactly if it holds of the labels. -/
theorem forall_words_iff (projection : Projection) (marking : Marking) :
    (∀ word ∈ (statements projection marking).flatMap Statement.words, holds word) ↔
      (∀ node ∈ projection.nodes, holds node.label) ∧
        ∀ edge ∈ projection.edges, holds edge.label := by
  have front := fun word member => ofPlain word (plain_preamble word member)
  have nodes : (∀ word ∈ projection.nodes.flatMap fun node =>
      (nodeStatements marking node).flatMap Statement.words, holds word) ↔
      ∀ node ∈ projection.nodes, holds node.label := by
    rw [List.forall_mem_flatMap]
    simp only [forall_node_words_iff ofPlain]
  have edges : (∀ word ∈ projection.edges.flatMap fun edge =>
      (edgeStatement marking edge).words, holds word) ↔
      ∀ edge ∈ projection.edges, holds edge.label := by
    rw [List.forall_mem_flatMap]
    simp only [forall_edge_words_iff ofPlain]
  rw [statements, List.flatMap_append, List.flatMap_append, List.forall_mem_append,
    List.forall_mem_append, List.flatMap_assoc, List.flatMap_map, nodes, edges]
  exact ⟨fun parts => ⟨parts.1.2, parts.2⟩, fun parts => ⟨⟨front, parts.1⟩, parts.2⟩⟩

end Words

theorem known_statements (projection : Projection) (marking : Marking) :
    ∀ statement ∈ statements projection marking, statement.Known := by
  unfold statements
  simp only [List.forall_mem_append, List.forall_mem_flatMap, List.forall_mem_map]
  refine ⟨⟨?_, fun node _ => ?_⟩, fun edge _ => trivial⟩
  · simp [preamble, Statement.Known, Dot.defaultKinds]
  · unfold nodeStatements
    split <;> simp [Statement.Known]

/-- A drawing whose words are written by the rule is read back as its statements exactly if its
labels are verbatim. -/
theorem read_drawing_iff {write : String → String} (rule : Dot.QuotingRule write)
    {projection : Projection}
    (nodesOneLine : ∀ node ∈ projection.nodes, '\n' ∉ node.label.toList)
    (edgesOneLine : ∀ edge ∈ projection.edges, '\n' ∉ edge.label.toList) (marking : Marking) :
    Dot.read (projection.toDot write marking) = some (statements projection marking) ↔
      (∀ node ∈ projection.nodes, Verbatim node.label) ∧
        ∀ edge ∈ projection.edges, Verbatim edge.label := by
  rw [← forall_words_iff (fun _ => Dot.Plain.verbatim) projection marking]
  apply Dot.read_renderGraph_iff rule (by decide +kernel) (known_statements projection marking)
  exact (forall_words_iff (fun _ => Dot.Plain.oneLine) projection marking).mpr
    ⟨nodesOneLine, edgesOneLine⟩

end Drawing

/-- A character of a joined text stands in the separator or in one of the texts. -/
theorem mem_of_mem_intercalate {c : Char} {separator : List Char} {texts : List (List Char)}
    (member : c ∈ separator.intercalate texts) : c ∈ separator ∨ ∃ text ∈ texts, c ∈ text := by
  induction texts with
  | nil => cases member
  | cons first others inductionHypothesis =>
    cases others with
    | nil => exact .inr ⟨first, List.mem_cons_self, by simpa using member⟩
    | cons second others =>
      rw [List.intercalate_cons_cons, List.mem_append, List.mem_append] at member
      rcases member with (inFirst | inSeparator) | later
      · exact .inr ⟨first, List.mem_cons_self, inFirst⟩
      · exact .inl inSeparator
      · rcases inductionHypothesis later with inSeparator | ⟨text, listed, inside⟩
        · exact .inl inSeparator
        · exact .inr ⟨text, List.mem_cons_of_mem _ listed, inside⟩

namespace Automaton

variable {model : Automaton}

/-- The statement that a state is drawn as, without a mark. -/
def stateStatement (model : Automaton) (state : State) : Statement :=
  .node (toString state.id) state.label (Drawing.nodeAttributes (model.nodeOf state) none)

/-- The statement that an edge is drawn as, without a mark. -/
def plainEdgeStatement (edge : Edge) : Statement :=
  .edge (toString edge.source) (toString edge.target) edge.label []

/-- The statements of a plain drawing: the states in order, the initial one with its marker behind
it, then the edges in order. -/
theorem statements_eq (valid : model.Valid) :
    ∃ before start after, model.states = before ++ start :: after ∧ start.id = model.initial ∧
      Drawing.statements model.projection Marking.none =
        Drawing.preamble ++ (before.map model.stateStatement ++
          (model.stateStatement start :: Drawing.pointer start.id) ++
          after.map model.stateStatement) ++ model.projection.edges.map plainEdgeStatement := by
  obtain ⟨start, member, isInitial⟩ := List.mem_map.mp valid.initialKnown
  obtain ⟨before, after, split⟩ := List.append_of_mem member
  refine ⟨before, start, after, split, isInitial, ?_⟩
  have others (states : List State) (notInitial : ∀ state ∈ states, state.id ≠ model.initial) :
      (states.map model.nodeOf).flatMap (Drawing.nodeStatements Marking.none) =
        states.map model.stateStatement := by
    rw [List.flatMap_map, List.map_eq_flatMap]
    refine List.flatMap_congr fun state member => ?_
    have apart : (model.nodeOf state).initial = false :=
      beq_eq_false_iff_ne.mpr (notInitial state member)
    rw [Drawing.nodeStatements, apart]
    rfl
  have initial : Drawing.nodeStatements Marking.none (model.nodeOf start) =
      model.stateStatement start :: Drawing.pointer start.id := by
    have pointed : (model.nodeOf start).initial = true := beq_iff_eq.mpr isInitial
    rw [Drawing.nodeStatements, pointed]
    rfl
  have distinct := valid.idsDistinct
  rw [ids, split, List.map_append, List.map_cons, List.nodup_append, List.nodup_cons] at distinct
  have front := others before fun state member same => distinct.2.2 _ (List.mem_map_of_mem member)
    start.id List.mem_cons_self (same.trans isInitial.symm)
  have back := others after fun state member same =>
    distinct.2.1.1 (List.mem_map.mpr ⟨state, member, same.trans isInitial.symm⟩)
  have nodes : model.projection.nodes.flatMap (Drawing.nodeStatements Marking.none) =
      before.map model.stateStatement ++
        (model.stateStatement start :: Drawing.pointer start.id) ++
        after.map model.stateStatement := by
    rw [projection, split, List.map_append, List.map_cons, List.flatMap_append, List.flatMap_cons,
      front, back, initial]
    simp
  rw [Drawing.statements, nodes]
  rfl

/-- The labels of a valid automaton and of its edges stay on their lines. -/
theorem Valid.oneLine_nodes (valid : model.Valid) :
    ∀ node ∈ model.projection.nodes, '\n' ∉ node.label.toList := by
  intro node member
  obtain ⟨state, known, rfl⟩ := List.mem_map.mp member
  exact (literalFault?_eq_none_iff.mp (valid.labelsUsable state known)).2.1

theorem Valid.oneLine_edges (valid : model.Valid) :
    ∀ edge ∈ model.projection.edges, '\n' ∉ edge.label.toList := by
  intro edge member lineFeed
  rw [Edge.label, String.toList_intercalate] at lineFeed
  rcases mem_of_mem_intercalate lineFeed with separator | ⟨symbol, listed, inside⟩
  · revert separator
    decide
  · obtain ⟨symbol, between, rfl⟩ := List.mem_map.mp listed
    rw [(mem_edges member).2, mem_symbolsBetween] at between
    exact (literalFault?_eq_none_iff.mp (valid.symbolsUsable _ between)).2.1 inside

/-- The drawing of a valid automaton, its words written by the rule, is read back as one statement
for each state and each edge, in order, with the marker of the initial state behind its node,
exactly if the labels of the states and the joined symbols of the edges are verbatim. -/
theorem read_toDot_iff {write : String → String} (rule : Dot.QuotingRule write)
    (valid : model.Valid) :
    ∃ before start after, model.states = before ++ start :: after ∧ start.id = model.initial ∧
      (Dot.read (model.projection.toDot write Marking.none) =
          some (Drawing.preamble ++ (before.map model.stateStatement ++
            (model.stateStatement start :: Drawing.pointer start.id) ++
            after.map model.stateStatement) ++ model.projection.edges.map plainEdgeStatement) ↔
        (∀ state ∈ model.states, Verbatim state.label) ∧
          ∀ edge ∈ model.projection.edges, Verbatim edge.label) := by
  obtain ⟨before, start, after, split, initial, drawn⟩ := statements_eq valid
  refine ⟨before, start, after, split, initial, ?_⟩
  rw [← drawn, Drawing.read_drawing_iff rule valid.oneLine_nodes valid.oneLine_edges]
  refine and_congr_left fun _ => ?_
  rw [projection, List.forall_mem_map]
  rfl

/-- An automaton whose words need their quotes: a keyword, a sign in front of a point, escaped and
unescaped quotes, single and paired backslashes, and brackets that do not enclose everything. -/
def spelledOut : Automaton where
  states := [⟨-3, "say \"hi\"", false⟩, ⟨4294967296, "Node", true⟩, ⟨0, "C:\\dir\\\\", false⟩]
  alphabet := ["\\n", "\\\\\"", "<b>!"]
  transitions := [⟨-3, "\\n", 0⟩, ⟨0, "<b>!", 4294967296⟩, ⟨-3, "\\\\\"", 0⟩]
  initial := 4294967296

theorem read_spelledOut :
    ∃ before start after, spelledOut.states = before ++ start :: after ∧
      start.id = spelledOut.initial ∧
      Dot.read (spelledOut.projection.toDot Dot.quote Marking.none) =
        some (Drawing.preamble ++ (before.map spelledOut.stateStatement ++
          (spelledOut.stateStatement start :: Drawing.pointer start.id) ++
          after.map spelledOut.stateStatement) ++
          spelledOut.projection.edges.map plainEdgeStatement) := by
  have valid : spelledOut.Valid := valid_of_ofParts
    (rfl : ofParts spelledOut.states spelledOut.alphabet spelledOut.transitions
      spelledOut.initial = .ok spelledOut)
  obtain ⟨before, start, after, split, initial, reads⟩ := read_toDot_iff Dot.quotingRule_quote valid
  exact ⟨before, start, after, split, initial, reads.mpr (by decide +kernel)⟩

/-- An automaton with a label in angle brackets. -/
def bracketed : Automaton where
  states := [⟨1, "<b>", false⟩]
  alphabet := ["A"]
  transitions := []
  initial := 1

/-- An automaton with a label that ends in a backslash. -/
def backslashed : Automaton where
  states := [⟨1, "a\\", false⟩]
  alphabet := ["A"]
  transitions := []
  initial := 1

/-- Their labels are usable, and their drawings are not read back. -/
theorem unread_drawings :
    bracketed.Valid ∧ backslashed.Valid ∧
      Dot.read (bracketed.projection.toDot Dot.quote Marking.none) ≠
        some (Drawing.preamble ++ [.node "1" "<b>" [⟨"penwidth", "1"⟩, ⟨"shape", "circle"⟩]] ++
          Drawing.pointer 1) ∧
      Dot.read (backslashed.projection.toDot Dot.quote Marking.none) ≠
        some (Drawing.preamble ++ [.node "1" "a\\" [⟨"penwidth", "1"⟩, ⟨"shape", "circle"⟩]] ++
          Drawing.pointer 1) := by
  have validBracketed : bracketed.Valid := valid_of_ofParts
    (rfl : ofParts bracketed.states bracketed.alphabet bracketed.transitions
      bracketed.initial = .ok bracketed)
  have validBackslashed : backslashed.Valid := valid_of_ofParts
    (rfl : ofParts backslashed.states backslashed.alphabet backslashed.transitions
      backslashed.initial = .ok backslashed)
  refine ⟨validBracketed, validBackslashed, fun read => ?_, fun read => ?_⟩
  · have labels := (Drawing.read_drawing_iff Dot.quotingRule_quote validBracketed.oneLine_nodes
      validBracketed.oneLine_edges Marking.none).mp read
    revert labels
    decide +kernel
  · have labels := (Drawing.read_drawing_iff Dot.quotingRule_quote validBackslashed.oneLine_nodes
      validBackslashed.oneLine_edges Marking.none).mp read
    revert labels
    decide +kernel

end Automaton

end Acceptor
