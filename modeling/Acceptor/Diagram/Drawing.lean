import Acceptor.Diagram.Dot.Statement
import Acceptor.Run.Frame

/-!
# Drawings

The drawing of a graph, plain or with the marks of a frame: nodes in order with the marker of the
initial state behind it, then edges in order. Attributes are listed by name.
-/

namespace Acceptor

open Dot (Attribute Statement)

/-- The marks that a drawing shows. -/
structure Marking where
  nodes : Marks StateId
  edges : Marks EdgeId
  deriving DecidableEq, Repr

/-- No marks at all. -/
def Marking.none : Marking := ⟨[], []⟩

/-- The marks of a frame. -/
def Frame.marking (frame : Frame) : Marking :=
  ⟨frame.nodes, frame.edges⟩

/-- The colour that a marked node is filled with. -/
def Highlight.fill : Highlight → String
  | .active => "#90CAF9"
  | .accepted => "#A5D6A7"
  | .rejected => "#EF9A9A"

namespace Drawing

/-- The node that points at the initial state. -/
def startMarker : String := "__start__"

/-- The colour of marked edges. -/
def activeEdgeColour : String := "#1E88E5"

/-- The attributes of a node under a mark, label apart. -/
def nodeAttributes (node : Node) (mark : Option Highlight) : List Attribute :=
  (if node.accepting then [⟨"color", "#000000"⟩] else []) ++
  (match mark with
    | some highlight => [⟨"fillcolor", highlight.fill⟩]
    | none => []) ++
  [⟨"penwidth", toString node.emphasis⟩,
    ⟨"shape", if node.accepting then "doublecircle" else "circle"⟩] ++
  (if mark.isSome then [⟨"style", "filled"⟩] else [])

/-- The statements for a node. The initial one is followed by a marker and an edge from it. -/
def nodeStatements (marking : Marking) (node : Node) : List Statement :=
  let id := toString node.id
  .node id node.label (nodeAttributes node (marking.nodes.at? node.id)) ::
    if node.initial then
      [.node startMarker "" [⟨"height", "0"⟩, ⟨"shape", "none"⟩, ⟨"width", "0"⟩],
        .edge startMarker id "" []]
    else []

/-- The attributes of an edge, label apart. -/
def edgeAttributes (marked : Bool) : List Attribute :=
  if marked then
    [⟨"color", activeEdgeColour⟩, ⟨"fontcolor", activeEdgeColour⟩, ⟨"penwidth", "2"⟩]
  else []

/-- The statement for an edge. -/
def edgeStatement (marking : Marking) (edge : Edge) : Statement :=
  .edge (toString edge.source) (toString edge.target) edge.label
    (edgeAttributes (marking.edges.at? edge.id).isSome)

/-- The statements before the nodes. -/
def preamble : List Statement :=
  [.setting ⟨"rankdir", "LR"⟩,
    .defaults "node" [⟨"color", "#BBBBBB"⟩],
    .defaults "edge" [⟨"color", "#ABABAB"⟩]]

/-- The statements of a drawing. -/
def statements (projection : Projection) (marking : Marking) : List Statement :=
  preamble ++ projection.nodes.flatMap (nodeStatements marking) ++
    projection.edges.map (edgeStatement marking)

end Drawing

/-- The DOT text of a graph with marks, given what writes words. -/
def Projection.toDot (projection : Projection) (write : String → String) (marking : Marking) :
    String :=
  Dot.renderGraph write "Deterministic Finite Automaton" (Drawing.statements projection marking)

end Acceptor
