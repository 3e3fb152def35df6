import Acceptor.Diagram.Dot.Quoting

/-!
# Statements of the DOT language

The part of the graph language DOT that drawings are written in: one statement a line, every
statement with its attributes in brackets. The label leads the attributes of nodes and edges.

The program hands statements over to the package `graphviz`, and `renderGraph` stands for what that
writes. How it writes words is left open (`QuotingRule` is what is granted of that); the layout of
lines and brackets is granted as it stands here.
-/

namespace Acceptor.Dot

/-- A named value of a statement. -/
structure Attribute where
  name : String
  value : String
  deriving DecidableEq, Repr

/-- A statement: a setting of the whole graph, the attributes that all nodes or edges start from, a
node, or an edge. -/
inductive Statement where
  | setting (value : Attribute)
  | defaults (kind : String) (attributes : List Attribute)
  | node (id : String) (label : String) (attributes : List Attribute)
  | edge (tail head : String) (label : String) (attributes : List Attribute)
  deriving DecidableEq, Repr

section Writing

variable (write : String → String)

/-- An attribute as it is written. -/
def Attribute.render (pair : Attribute) : String :=
  write pair.name ++ "=" ++ write pair.value

/-- Attributes in brackets. -/
def renderAttributes (attributes : List Attribute) : String :=
  "[" ++ " ".intercalate (attributes.map (·.render write)) ++ "]"

/-- A statement as it is written. -/
def Statement.render : Statement → String
  | .setting value => value.render write
  | .defaults kind attributes => kind ++ " " ++ renderAttributes write attributes
  | .node id label attributes =>
    write id ++ " " ++ renderAttributes write (⟨"label", label⟩ :: attributes)
  | .edge tail head label attributes =>
    write tail ++ " -> " ++ write head ++ " " ++
      renderAttributes write (⟨"label", label⟩ :: attributes)

/-- The text of a directed graph under a title: every line ends in a line feed. -/
def renderGraph (title : String) (statements : List Statement) : String :=
  let lines := ["// " ++ title, "digraph \x7b"] ++
    statements.map (fun statement => "\t" ++ statement.render write) ++ ["\x7d"]
  String.join (lines.map (· ++ "\n"))

end Writing

end Acceptor.Dot
