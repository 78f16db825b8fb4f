import ShadeBake.Json.Reader
import ShadeBake.Registry.Basic

/-! The JSON form of registry files. -/

namespace ShadeBake

open Json (Tree)

namespace EntryPlug

/-- The plug that a form writes; a default of null is none. -/
def ofTree? (room : Nat) (tree : Tree) : Option EntryPlug :=
  Tree.nested (fun room tree => do
    let [name, type, value] ← tree.fields? ["name", "type", "value"] | none
    return {
      name := ← Tree.required Tree.string? name
      type := ← Tree.required Tree.string? type
      value := ← Tree.defaulted (Tree.nullable (Tree.value? room)) none value }) room tree

end EntryPlug

namespace ShaderEntry

/-- The entry that a form writes; its identifier and source type must be given. -/
def ofTree? (room : Nat) (tree : Tree) : Option ShaderEntry :=
  Tree.nested (fun room tree => do
    let [identifier, sourceType, family, role, inputs, outputs, metadata] ← tree.fields?
      ["identifier", "sourceType", "family", "role", "inputs", "outputs", "metadata"] | none
    let plugs := Tree.defaulted
      (Tree.nested (fun room => Tree.list? (EntryPlug.ofTree? room)) room) []
    return {
      identifier := ← Tree.required Tree.string? identifier
      sourceType := ← Tree.required Tree.string? sourceType
      family := ← Tree.defaulted Tree.string? "" family
      role := ← Tree.defaulted (Tree.nullable Tree.string?) none role
      inputs := ← plugs inputs
      outputs := ← plugs outputs
      metadata := ←
        Tree.defaulted (Tree.nested (fun _ => Tree.dict? Tree.string?) room) Dict.empty metadata
      assetPath := none }) room tree

/-- The entry that a JSON value writes. -/
def ofJson? (json : Json) : Option ShaderEntry :=
  ofTree? json.depth json.toTree

end ShaderEntry

namespace Registry

/-- The entries of a registry file; the file must give its version. -/
def entriesOfText? (text : String) : Option (List ShaderEntry) := do
  let tree ← Tree.ofText? text
  Tree.nested (fun room tree => do
    let [version, shaders] ← tree.fields? ["version", "shaders"] | none
    let _ ← Tree.required Tree.string? version
    Tree.defaulted (Tree.nested (fun room => Tree.list? (ShaderEntry.ofTree? room)) room) []
      shaders) Json.depthLimit tree

/-- The registry with the entries of a file, and their number. -/
def merge? (registry : Registry) (text : String) : Option (Nat × Registry) :=
  (entriesOfText? text).map fun entries => (entries.length, registry.insertAll entries)

end Registry

/-- Why a registry file cannot be merged. -/
inductive MergeError where
  | unreadable (path : Path)
  | malformed (path : Path)
  deriving DecidableEq, Repr

namespace MergeError

/-- The words for an error. -/
def message : MergeError → String
  | unreadable path => s!"failed to read shader registry json at {path}"
  | malformed path => s!"failed to parse shader registry json at {path}"

end MergeError

namespace Registry

/-- The registry with the entries of the file at a path, and their number. -/
def mergeFile (registry : Registry) (files : FileSystem) (path : Path) :
    Except MergeError (Nat × Registry) :=
  match files.read path with
  | .error _ => .error (.unreadable path)
  | .ok text =>
    -- A text that does not read leaves the registry as it is.
    match registry.merge? text with
    | none => .error (.malformed path)
    | some merged => .ok merged

end Registry

end ShadeBake
