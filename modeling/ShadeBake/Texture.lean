import ShadeBake.Document.Description
import ShadeBake.Network.NodePath
import ShadeBake.Resolver
import ShadeBake.Warning

/-! Routing the texture reads of a document through the renderer.

Textures in other formats than the native one are read through a plugin. Native ones are read by their path,
and the second of their coordinates is turned around. -/

namespace ShadeBake

namespace WrapMode

/-- The mode for an address mode of a node, with a warning where it is only approximated. -/
def ofMode (node mode : String) : WrapMode × List Warning :=
  (ofAddressMode mode, if isApproximated mode then [.approximatedMode node mode] else [])

/-- The mode for a parameter of a node; without a text there the texture repeats. -/
def ofParameter (network : Network) (node parameter : String) : WrapMode × List Warning :=
  match (network.parameter? node parameter).bind Parameter.string? with
  | some mode => ofMode node mode
  | none => (periodic, [])

/-- The modes of a texture node along its two coordinates. -/
def ofNode (network : Network) (node : String) : (WrapMode × WrapMode) × List Warning :=
  let (u, first) := ofParameter network node "uaddressmode"
  let (v, second) := ofParameter network node "vaddressmode"
  ((u, v), first ++ second)

end WrapMode

/-- What texture reads are routed with: the registry, the resolver of references, the native extension and
the plugin. -/
structure TextureContext where
  registry : Registry
  resolver : Resolver
  nativeExtension : String
  plugin : String

namespace Texture

open Document (Graph Node Input)

/-- The locator of a texture that the plugin reads. -/
def pluginLocator (plugin path : String) (u v : WrapMode) : String :=
  s!"rtxplugin:{plugin}?filename={path}&wrapS={u.name}&wrapT={v.name}"

/-- The variable that coordinates are read from where none is named. -/
def defaultPrimvar : String := "st"

/-- The type of the nodes that read coordinates from a variable. -/
def reader : String := "ND_geompropvalue_vector2"

/-- The type of the nodes that map ranges of coordinates to others. -/
def remapper : String := "ND_remap_vector2"

/-- The name of the node that reads the coordinates of a texture node. -/
def readerName (node : String) : String := node ++ "__texcoord"

/-- The name of the node that turns the coordinates of a texture node. -/
def remapperName (node : String) : String := node ++ "__remap"

/-- The path of a reference: as it was resolved before, or else as it is resolved now. -/
def resolved (context : TextureContext) (reference : AssetReference) : Path :=
  -- An empty path is as good as none.
  match reference.resolved with
  | some path => if path = "" then context.resolver.resolve reference.authored else path
  | none => context.resolver.resolve reference.authored

/-- A path is native when its extension is, or when it has none. -/
def isNative (context : TextureContext) (path : Path) : Bool :=
  context.resolver.extension path = "" || context.resolver.extension path = context.nativeExtension

/-- The graph with a text for the file of a texture node. -/
def setFile (graph : Graph) (name text : String) : Graph :=
  graph.modifyNode name fun node => node.setValue "file" (.string text) "filename"

/-- The variable that a node type reads its coordinates from, with a warning where none is named. -/
def primvar (context : TextureContext) (path type : String) : String × List Warning :=
  match (context.registry.definition? type).bind ShaderEntry.primvarHint? with
  | some primvar => (primvar, [])
  | none => (defaultPrimvar, [.assumedPrimvar path defaultPrimvar])

/-- The node that reads coordinates from a variable. -/
def readerNode (context : TextureContext) (name primvar : String) : Node where
  name := readerName name
  category := "geompropvalue"
  type := "vector2"
  definition := some reader
  inputs := [{ name := "geomprop", type := "string", value := some (.string primvar) }]
  signature := context.registry.signature? reader

/-- A texture node has coordinates when it has an input for them. -/
def hasCoordinates (graph : Graph) (name : String) : Bool :=
  ((graph.node? name).bind (·.input? "texcoord")).isSome

/-- The graph in which a texture node has coordinates: its own, or those of a new reader. -/
def withCoordinates (context : TextureContext) (path type name : String) (graph : Graph) :
    Graph × List Warning :=
  if hasCoordinates graph name then (graph, [])
  else
    let (primvar, warnings) := primvar context path type
    let added := graph.addNode (readerNode context name primvar)
    (added.modifyNode name fun node =>
      node.putInput { name := "texcoord", type := "vector2", node := some (readerName name) }, warnings)

/-- The node that turns coordinates, read from where an input had them. -/
def remapperNode (context : TextureContext) (name : String) (source : Option Input) : Node where
  name := remapperName name
  category := "remap"
  type := "vector2"
  definition := some remapper
  inputs := [
    { name := "in", type := "vector2"
      node := source.bind (·.node), output := source.bind (·.output), value := source.bind (·.value) },
    { name := "inlow", type := "float2", value := some (.vector [zero, one]) },
    { name := "inhigh", type := "float2", value := some (.vector [one, zero]) }]
  signature := context.registry.signature? remapper
where
  zero : Binary := .ofInt .single 0
  one : Binary := .ofInt .single 1

/-- The graph in which the coordinates of a texture node come through a new remapper. -/
def withRemapper (context : TextureContext) (name : String) (graph : Graph) : Graph :=
  -- What fed the coordinates feeds the remapper from now on.
  let source := (graph.node? name).bind (·.input? "texcoord")
  let added := graph.addNode (remapperNode context name source)
  added.modifyNode name fun node =>
    node.modifyInput "texcoord" fun input =>
      { input with node := some (remapperName name), output := none, value := none }

/-- The graph with one texture node routed to a path. -/
def routeNode (context : TextureContext) (network : Network) (node type : String) (path : Path)
    (graph : Graph) : Graph × List Warning :=
  let name := NodePath.leaf node
  if isNative context path then
    let (graph, warnings) := withCoordinates context node type name (setFile graph name path)
    (withRemapper context name graph, warnings)
  else
    let ((u, v), modes) := WrapMode.ofNode network node
    let file := setFile graph name (pluginLocator context.plugin path u v)
    let (graph, warnings) := withCoordinates context node type name file
    (graph, modes ++ warnings)

end Texture

/-- A document whose texture reads are routed, the number of its texture nodes that were, and the
warnings. -/
structure RoutedDocument where
  document : Document
  updated : Nat := 0
  warnings : List Warning := []

namespace RoutedDocument

/-- The routing continued with one texture node: it must exist, have a file that is a reference, and be
found in the document. -/
def routePath (context : TextureContext) (network : Network) (routed : RoutedDocument) (path : String) :
    RoutedDocument :=
  if network.hasNode path then
    match network.parameter? path "file" with
    | none => { routed with warnings := routed.warnings ++ [.missingFile path] }
    | some (.plain _) => routed
    | some (.asset reference) =>
      match routed.document.findGraph? (NodePath.parent path) (NodePath.leaf path) with
      | none => routed
      | some position =>
        match routed.document.graphs[position]? with
        | none => routed
        | some graph =>
          let (changed, warnings) := Texture.routeNode context network path (network.typeOf path)
            (Texture.resolved context reference) graph
          { document := routed.document.modifyGraph position fun _ => changed
            updated := routed.updated + 1
            warnings := routed.warnings ++ warnings }
  else { routed with warnings := routed.warnings ++ [.missingTexture path] }

end RoutedDocument

/-- The document with the texture nodes of a set of paths routed, in the order of the paths. -/
def Document.routeTextures (context : TextureContext) (network : Network) (paths : NameSet)
    (document : Document) : RoutedDocument :=
  paths.keys.foldl (RoutedDocument.routePath context network) { document }

end ShadeBake
