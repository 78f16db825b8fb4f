import ShadeBake.Dict
import ShadeBake.Json.Basic

/-! Material networks: typed nodes under structural names, what they read, and the material's terminals. -/

namespace ShadeBake

/-- What an input or a terminal reads: an output of a source node. -/
structure Connection where
  source : String
  output : String
  deriving DecidableEq, Repr, Inhabited

/-- A reference to a file, as authored and as resolved, if it was. -/
structure AssetReference where
  authored : String
  resolved : Option String
  deriving DecidableEq, Repr

/-- The value of a parameter. References to files are kept apart from plain text. -/
inductive Parameter where
  | asset (reference : AssetReference)
  | plain (value : Json)
  deriving Inhabited

namespace Parameter

/-- The text of a plain parameter that is a string. -/
def string? : Parameter → Option String
  | .plain (.string s) => some s
  | _ => none

/-- The reference of a parameter that is one. -/
def asset? : Parameter → Option AssetReference
  | .asset reference => some reference
  | .plain _ => none

end Parameter

/-- A node of a network: its type, its authored parameters and the connections of its inputs. -/
structure Network.Node where
  type : String
  parameters : Dict Parameter
  inputs : Dict Connection
  deriving Inhabited

/-- A material network: the path of its material, nodes by name and terminals by slot. -/
structure Network where
  materialPath : String
  nodes : Dict Network.Node
  terminals : Dict Connection
  deriving Inhabited

namespace Network

/-- The slot of the terminal that shades surfaces. -/
def surfaceTerminal : String := "surface"

/-- The network of a material without nodes. -/
def new (materialPath : String) : Network :=
  ⟨materialPath, Dict.empty, Dict.empty⟩

/-- A node with no type, parameters or inputs. -/
def Node.blank : Node :=
  ⟨"", Dict.empty, Dict.empty⟩

/-- The names of all nodes, in order. -/
def nodeNames (network : Network) : List String :=
  network.nodes.keys

/-- The type of a node that is there. -/
def type? (network : Network) (node : String) : Option String :=
  (network.nodes.get? node).map (·.type)

/-- The type of a node, empty for one that is not there. -/
def typeOf (network : Network) (node : String) : String :=
  (network.type? node).getD ""

/-- A node exists when it is there and has a type. -/
def hasNode (network : Network) (node : String) : Bool :=
  network.typeOf node ≠ ""

/-- The network with one node changed, if it is there. -/
def modifyNode (network : Network) (node : String) (change : Node → Node) : Network :=
  { network with nodes := network.nodes.modify node change }

/-- The network with the type of a node set; an unknown node is made. -/
def setType (network : Network) (node type : String) : Network :=
  { network with
    nodes := network.nodes.insert node { (network.nodes.get? node).getD .blank with type } }

/-- The network without a node. -/
def deleteNode (network : Network) (node : String) : Network :=
  { network with nodes := network.nodes.erase node }

/-- The value of a node's parameter. -/
def parameter? (network : Network) (node name : String) : Option Parameter :=
  (network.nodes.get? node).bind (·.parameters.get? name)

/-- The network with a parameter of a node set; an unknown node stays unknown. -/
def setParameter (network : Network) (node name : String) (value : Parameter) : Network :=
  network.modifyNode node fun n => { n with parameters := n.parameters.insert name value }

/-- The network with a parameter of a node taken away. -/
def deleteParameter (network : Network) (node name : String) : Network :=
  network.modifyNode node fun n => { n with parameters := n.parameters.erase name }

/-- The names of a node's authored parameters, in order. -/
def parameterNames (network : Network) (node : String) : List String :=
  ((network.nodes.get? node).map (·.parameters.keys)).getD []

/-- The connection of a node's input. -/
def input? (network : Network) (node name : String) : Option Connection :=
  (network.nodes.get? node).bind (·.inputs.get? name)

/-- The network with an input of a node connected; an unknown node stays unknown. -/
def setInput (network : Network) (node name : String) (connection : Connection) : Network :=
  network.modifyNode node fun n => { n with inputs := n.inputs.insert name connection }

/-- The network with an input of a node disconnected. -/
def deleteInput (network : Network) (node name : String) : Network :=
  network.modifyNode node fun n => { n with inputs := n.inputs.erase name }

/-- The connections of a node's inputs by name, in order. -/
def inputs (network : Network) (node : String) : List (String × Connection) :=
  ((network.nodes.get? node).map (·.inputs.entries)).getD []

/-- The names of a node's connected inputs, in order. -/
def inputNames (network : Network) (node : String) : List String :=
  (network.inputs node).map (·.1)

/-- The connection of a terminal. -/
def terminal? (network : Network) (slot : String) : Option Connection :=
  network.terminals.get? slot

/-- The network with a terminal bound. -/
def setTerminal (network : Network) (slot : String) (connection : Connection) : Network :=
  { network with terminals := network.terminals.insert slot connection }

end Network

end ShadeBake
