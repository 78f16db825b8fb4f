import ShadeBake.Json.Reader
import ShadeBake.Json.Writer
import ShadeBake.Network.Basic

/-! The JSON form of networks. -/

namespace ShadeBake

open Json (Tree)

namespace Connection

/-- The JSON form of a connection. -/
def toJson (connection : Connection) : Json :=
  .object [("upstreamNode", .string connection.source), ("upstreamOutput", .string connection.output)]

/-- The connection that a form writes; an output need not be named. -/
def ofTree? (room : Nat) (tree : Tree) : Option Connection :=
  Tree.nested (fun _ tree => do
    let [source, output] ← tree.fields? ["upstreamNode", "upstreamOutput"] | none
    return {
      source := ← Tree.required Tree.string? source
      output := ← Tree.defaulted Tree.string? "" output }) room tree

end Connection

namespace AssetReference

/-- The JSON form of a reference; a path that was not resolved is left out. -/
def toJson (reference : AssetReference) : Json :=
  .object <| ("asset", .string reference.authored) ::
    match reference.resolved with
    | some path => [("resolvedPath", .string path)]
    | none => []

/-- The reference that a form writes. -/
def ofTree? (tree : Tree) : Option AssetReference := do
  let [authored, resolved] ← tree.fields? ["asset", "resolvedPath"] | none
  return {
    authored := ← Tree.required Tree.string? authored
    resolved := ← Tree.defaulted (Tree.nullable Tree.string?) none resolved }

end AssetReference

namespace Parameter

/-- The JSON form of a parameter. -/
def toJson : Parameter → Json
  | .asset reference => reference.toJson
  | .plain value => value

/-- The parameter that a form writes: a reference if it can be read as one, and else a plain value. All of
the form must have a value either way. -/
def ofTree? (room : Nat) (tree : Tree) : Option Parameter := do
  -- A reference keeps nothing of the members that it does not know.
  let value ← tree.value? room
  match AssetReference.ofTree? tree with
  | some reference => return .asset reference
  | none => return .plain value

end Parameter

namespace Network

/-- The JSON form of a node. -/
def Node.toJson (node : Node) : Json :=
  .object [
    ("type", .string node.type),
    ("parameters", .ofDict (node.parameters.mapWithKey fun _ p => p.toJson)),
    ("inputConnections", .ofDict (node.inputs.mapWithKey fun _ c => c.toJson))]

/-- The node that a form writes; only its type must be given. -/
def Node.ofTree? (room : Nat) (tree : Tree) : Option Node :=
  Tree.nested (fun room tree => do
    let [type, parameters, inputs] ← tree.fields? ["type", "parameters", "inputConnections"] | none
    return {
      type := ← Tree.required Tree.string? type
      parameters := ←
        Tree.defaulted (Tree.nested (fun room => Tree.dict? (Parameter.ofTree? room)) room)
          Dict.empty parameters
      inputs := ←
        Tree.defaulted (Tree.nested (fun room => Tree.dict? (Connection.ofTree? room)) room)
          Dict.empty inputs }) room tree

/-- The JSON form of a network. -/
def toJson (network : Network) : Json :=
  .object [
    ("materialPath", .string network.materialPath),
    ("nodes", .ofDict (network.nodes.mapWithKey fun _ node => node.toJson)),
    ("terminals", .ofDict (network.terminals.mapWithKey fun _ c => c.toJson))]

/-- The network that a form writes; every field may be left out. -/
def ofTree? (room : Nat) (tree : Tree) : Option Network :=
  Tree.nested (fun room tree => do
    let [materialPath, nodes, terminals] ← tree.fields? ["materialPath", "nodes", "terminals"] | none
    return {
      materialPath := ← Tree.defaulted Tree.string? "" materialPath
      nodes := ←
        Tree.defaulted (Tree.nested (fun room => Tree.dict? (Node.ofTree? room)) room)
          Dict.empty nodes
      terminals := ←
        Tree.defaulted (Tree.nested (fun room => Tree.dict? (Connection.ofTree? room)) room)
          Dict.empty terminals }) room tree

/-- The network that a JSON value writes. -/
def ofJson? (json : Json) : Option Network :=
  ofTree? json.depth json.toTree

/-- The network that a text writes. -/
def ofText? (text : String) : Option Network :=
  (Tree.ofText? text).bind (ofTree? Json.depthLimit)

/-- The text of a network over several lines. -/
def toText (network : Network) : String :=
  network.toJson.pretty ""

end Network

end ShadeBake
