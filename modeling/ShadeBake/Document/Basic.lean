import ShadeBake.Binary.Basic

/-! Shading documents: graphs of nodes whose inputs hold literals or read other nodes. -/

namespace ShadeBake

/-- The name of the one output of every shader, and of the output that nodes have by default. -/
def defaultOutputName : String := "out"

/-- A literal value of an input; its numbers are of single precision. -/
inductive Literal where
  | string (s : String)
  | float (x : Binary)
  | integer (n : Int)
  | boolean (b : Bool)
  | vector (xs : List Binary)
  deriving DecidableEq, Repr

namespace Literal

/-- The text of a literal that is a string. -/
def string? : Literal → Option String
  | .string s => some s
  | _ => none

end Literal

/-- An input of a document node: its literal, the node of the same graph that it reads, the output read
there unless it is the default one, and the graph read by a node outside all graphs. -/
structure Document.Input where
  name : String
  type : String
  value : Option Literal := none
  node : Option String := none
  output : Option String := none
  graph : Option String := none
  deriving DecidableEq, Repr

/-- A plug, which is an input or output that a node's definition declares, with the value that an input
has where nothing is authored for it. -/
structure Document.Plug where
  name : String
  type : String
  default : Option Literal := none
  deriving DecidableEq, Repr

/-- The plugs that a node's definition declares, in order. -/
structure Document.Signature where
  inputs : List Document.Plug
  outputs : List Document.Plug
  deriving DecidableEq, Repr

/-- A node of a document; its signature is known when its definition is. -/
structure Document.Node where
  name : String
  category : String
  type : String
  definition : Option String := none
  inputs : List Document.Input := []
  signature : Option Document.Signature := none
  deriving DecidableEq, Repr

/-- An output of a graph: the node and the output of it that are read. -/
structure Document.GraphOutput where
  name : String
  type : String
  node : String
  output : Option String
  deriving DecidableEq, Repr

/-- A named graph of nodes. -/
structure Document.Graph where
  name : String
  nodes : List Document.Node := []
  outputs : List Document.GraphOutput := []
  deriving DecidableEq, Repr

/-- A document: nodes outside all graphs, and graphs in the order in which they were made. -/
structure Document where
  nodes : List Document.Node := []
  graphs : List Document.Graph := []
  deriving DecidableEq, Repr

namespace Document

/-- The list with its first picked element changed. -/
def modifyFirst {α : Type} (pick : α → Bool) (change : α → α) : List α → List α
  | [] => []
  | a :: rest => if pick a then change a :: rest else a :: modifyFirst pick change rest

namespace Node

/-- The first input of a name. -/
def input? (node : Node) (name : String) : Option Input :=
  node.inputs.find? (·.name = name)

/-- The node with an input at the end, in the stead of all inputs of its name. -/
def putInput (node : Node) (input : Input) : Node :=
  { node with inputs := node.inputs.filter (·.name ≠ input.name) ++ [input] }

/-- The node with the first input of a name changed. -/
def modifyInput (node : Node) (name : String) (change : Input → Input) : Node :=
  { node with inputs := modifyFirst (·.name = name) change node.inputs }

/-- The node with a literal for an input, which keeps its place and connection if it is there. -/
def setValue (node : Node) (name : String) (value : Literal) (type : String) : Node :=
  -- Several inputs of one name can only be authored by hand; the first of them is meant.
  match node.input? name with
  | some _ => node.modifyInput name fun input => { input with value := some value, type }
  | none => node.putInput { name, type, value := some value }

end Node

/-- The list with a node at the end, in the stead of all nodes of its name. -/
def putNode (nodes : List Node) (node : Node) : List Node :=
  nodes.filter (·.name ≠ node.name) ++ [node]

namespace Graph

/-- The first node of a name. -/
def node? (graph : Graph) (name : String) : Option Node :=
  graph.nodes.find? (·.name = name)

/-- The graph with a node at the end, in the stead of all nodes of its name. -/
def addNode (graph : Graph) (node : Node) : Graph :=
  { graph with nodes := putNode graph.nodes node }

/-- The graph with the first node of a name changed. -/
def modifyNode (graph : Graph) (name : String) (change : Node → Node) : Graph :=
  { graph with nodes := modifyFirst (·.name = name) change graph.nodes }

end Graph

/-- The first node of a name outside all graphs. -/
def node? (document : Document) (name : String) : Option Node :=
  document.nodes.find? (·.name = name)

/-- The document with a node outside all graphs, in the stead of all of its name. -/
def addNode (document : Document) (node : Node) : Document :=
  { document with nodes := putNode document.nodes node }

/-- The document without the nodes of a name outside all graphs. -/
def removeNode (document : Document) (name : String) : Document :=
  { document with nodes := document.nodes.filter (·.name ≠ name) }

/-- The first graph of a name. -/
def graph? (document : Document) (name : String) : Option Graph :=
  document.graphs.find? (·.name = name)

/-- The document with the graph at a position changed. -/
def modifyGraph (document : Document) (position : Nat) (change : Graph → Graph) : Document :=
  { document with graphs := document.graphs.modify position change }

/-- The position of the graph that holds a node: the hinted graph, else the one made last, else the first of
all graphs that does. -/
def findGraph? (document : Document) (hint node : String) : Option Nat :=
  let holds (graph : Graph) : Bool := (graph.node? node).isSome
  -- Graph names need not be what nodes are grouped by, so a hint can name another graph or none.
  let hinted := (document.graphs.findIdx? (·.name = hint)).filter fun position =>
    (document.graphs[position]?).any holds
  let last :=
    if (document.graphs.getLast?).any holds then some (document.graphs.length - 1) else none
  hinted <|> last <|> document.graphs.findIdx? holds

/-- The graph that holds a node, and that node in it. -/
def findNode? (document : Document) (hint node : String) : Option (Graph × Node) := do
  let position ← document.findGraph? hint node
  let graph ← document.graphs[position]?
  return (graph, ← graph.node? node)

end Document

end ShadeBake
