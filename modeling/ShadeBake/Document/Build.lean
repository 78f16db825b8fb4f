import ShadeBake.Document.ChildName
import ShadeBake.Document.Description
import ShadeBake.Network.NodePath
import ShadeBake.Reach
import ShadeBake.Warning

/-! Building the document for what feeds a terminal node of a network.

The nodes on the way are grouped into graphs by the component above their last one. The terminal becomes a
node outside the graphs, and a material node wraps it. -/

namespace ShadeBake

/-- What the descriptions of node types are looked up in. -/
structure Vocabulary where
  registry : Registry
  library : DefinitionLibrary

namespace Vocabulary

/-- The description of a node type. -/
def describe (vocabulary : Vocabulary) (type : String) : NodeDescription :=
  NodeDescription.of vocabulary.registry vocabulary.library type

end Vocabulary

/-- A built document, the keys of its graphs in order, the paths of the texture nodes, and their paths by
the names of their document nodes. -/
structure BuiltDocument where
  document : Document := {}
  graphKeys : List String := []
  texturePaths : NameSet := Dict.empty
  textureNames : Dict String := Dict.empty
  warnings : List Warning := []

namespace Document

/-- The key of the graph that a node goes into: the component above its last one, or one for all nodes that
have none. -/
def graphKey (material path : String) : String :=
  if NodePath.parent path = "" then "NG_" ++ material else NodePath.parent path

/-- The node with the literals of a network node's parameters, as far as they have one. -/
def withParameters (description : NodeDescription) (network : Network) (path : String) (node : Node) :
    Node :=
  (network.parameterNames path).foldl (fun node name =>
    match network.parameter? path name with
    | none => node
    | some value =>
      -- A declared type comes before what the value looks like.
      let type := (description.inputTypes.get? name).getD value.inferredType
      match Literal.ofParameter? type value with
      | some literal => node.setValue name literal type
      | none => node) node

/-- The definition that a node of a type names. -/
def definitionOf (type : String) : Option String :=
  if type = "" then none else some type

/-- The input for a connection; the output with the default name is not named. -/
def connectedInput (description : NodeDescription) (name : String) (connection : Connection) : Input where
  name := name
  type := description.inputType name
  node := some (NodePath.leaf connection.source)
  output :=
    -- The default output is read where none is named.
    if connection.output = "" || connection.output = defaultOutputName then none
    else some connection.output

/-- The node with the connections of a network node's inputs, as far as their sources exist. -/
def withConnections (description : NodeDescription) (network : Network) (path : String) (node : Node) :
    Node :=
  (network.inputs path).foldl (fun node (name, connection) =>
    -- A connection that dangles makes no input.
    if network.hasNode connection.source then
      node.putInput (connectedInput description name connection)
    else node) node

/-- The warnings for the inputs of a node whose sources do not exist. -/
def danglingWarnings (network : Network) (path : String) : List Warning :=
  (network.inputs path).filterMap fun (name, connection) =>
    if network.hasNode connection.source then none
    else some (.unknownSource connection.source path name)

/-- The document node for a network node. -/
def nodeFor (vocabulary : Vocabulary) (network : Network) (path : String) : Node :=
  let type := network.typeOf path
  let description := vocabulary.describe type
  let bare : Node := {
    name := NodePath.leaf path
    category := description.category
    type := description.type
    definition := definitionOf type
    signature := description.signature }
  -- Connections come after parameters, and replace those of their names.
  description.sortInputs
    (withConnections description network path (withParameters description network path bare))

end Document

namespace BuiltDocument

open Document (nodeFor graphKey)

/-- The document with a graph for a key, unless there is one. -/
def withGraph (built : BuiltDocument) (key : String) : BuiltDocument :=
  if key ∈ built.graphKeys then built
  else
    { built with document := built.document.addGraph key, graphKeys := built.graphKeys ++ [key] }

/-- The document with the node for a network node in the graph of its key. -/
def addNode (vocabulary : Vocabulary) (network : Network) (material : String) (built : BuiltDocument)
    (path : String) : BuiltDocument :=
  -- Keys and graphs are made together, so a key and its graph have the same position.
  let key := graphKey material path
  let node := nodeFor vocabulary network path
  let built := built.withGraph key
  let isTexture := (vocabulary.describe (network.typeOf path)).isTexture
  { built with
    document := built.document.modifyGraph (built.graphKeys.idxOf key) fun graph =>
      { graph with nodes := graph.nodes ++ [node] }
    texturePaths := if isTexture then built.texturePaths.add path else built.texturePaths
    textureNames :=
      if isTexture then built.textureNames.insert node.name path else built.textureNames
    warnings := built.warnings ++ Document.danglingWarnings network path }

end BuiltDocument

/-- A document being built: the paths of its nodes so far, and the inputs of the terminal that read
graphs. -/
structure DocumentBuilder where
  built : BuiltDocument
  added : List String := []
  terminalInputs : List Document.Input := []

namespace DocumentBuilder

open Document (graphKey)

/-- The graph with an output for an input of the terminal, unless it has one of that name. -/
def withOutput (graph : Document.Graph) (output : Document.GraphOutput) : Document.Graph :=
  if graph.outputs.any (·.name = output.name) then graph
  else { graph with outputs := graph.outputs ++ [output] }

/-- The building continued with all that feeds one input of the terminal. -/
def addConnection (vocabulary : Vocabulary) (network : Network) (terminal : String)
    (builder : DocumentBuilder) (name : String) : DocumentBuilder :=
  match network.input? terminal name with
  | none => builder
  | some connection =>
    if network.hasNode connection.source then
      let material := NodePath.materialName network.materialPath
      -- What earlier inputs brought in stays, and only the rest of the visited nodes is new.
      let added := network.visit builder.added [connection.source]
      let built := (added.drop builder.added.length).foldl
        (BuiltDocument.addNode vocabulary network material) builder.built
      -- The node read by the terminal was visited, so its graph is there.
      let position := built.graphKeys.idxOf (graphKey material connection.source)
      let leaf := NodePath.leaf connection.source
      let graph := built.document.graphs[position]?
      let type := ((graph.bind (·.node? leaf)).map (·.type)).getD ""
      let declared := (vocabulary.describe (network.typeOf terminal)).inputTypes.get? name
      let output : Document.GraphOutput := {
        name := name ++ "_output"
        type
        node := leaf
        output := if connection.output = "" then none else some connection.output }
      { built := { built with document := built.document.modifyGraph position (withOutput · output) }
        added
        terminalInputs := builder.terminalInputs ++
          [{ name, type := declared.getD type, output := some output.name, graph := graph.map (·.name) }] }
    else builder

end DocumentBuilder

namespace Document

/-- The node for the terminal, outside all graphs; it reads no node, only graphs. -/
def terminalNode (vocabulary : Vocabulary) (network : Network) (terminal : String) : Node :=
  let type := network.typeOf terminal
  let description := vocabulary.describe type
  withParameters description network terminal {
    name := NodePath.shaderName (NodePath.materialName network.materialPath)
    category := description.category
    type := "surfaceshader"
    definition := definitionOf type }

/-- The node for the material, which reads the terminal's. -/
def materialNode (network : Network) : Node :=
  let material := NodePath.materialName network.materialPath
  { name := material
    category := "surfacematerial"
    type := "material"
    inputs := [{
      name := "surfaceshader", type := "surfaceshader", node := some (NodePath.shaderName material) }] }

/-- The document for what feeds the listed inputs of a terminal. The two nodes outside the graphs come
first, as graphs get names that no child has. -/
def build (vocabulary : Vocabulary) (network : Network) (terminal : String) (names : List String) :
    BuiltDocument :=
  let shader := terminalNode vocabulary network terminal
  let start : DocumentBuilder :=
    { built := { document := ({} : Document).addNode shader |>.addNode (materialNode network) } }
  -- The terminal's inputs are put in when all connections have been followed.
  let builder := names.foldl (DocumentBuilder.addConnection vocabulary network terminal) start
  let document := builder.built.document
  { builder.built with
    document := { document with
      nodes := modifyFirst (·.name = shader.name)
        (fun node => builder.terminalInputs.foldl Node.putInput node) document.nodes } }

end Document

end ShadeBake
