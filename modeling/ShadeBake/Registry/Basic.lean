import ShadeBake.Artifact
import ShadeBake.FileTree
import ShadeBake.Registry.Entry

/-! The shader registry: entries in the order in which they were registered, at most one for an identifier
and a source type. -/

namespace ShadeBake

/-- The registered entries, the earliest first. -/
structure Registry where
  entries : List ShaderEntry

/-- Why a compiled shader cannot be registered. -/
inductive RegisterError where
  | unreadable (path : Path) (failure : ReadFailure)
  | malformed (path : Path) (error : ArtifactError)
  | unnamed (path : Path)
  deriving DecidableEq, Repr

namespace RegisterError

/-- What failed, without its cause. -/
def summary : RegisterError → String
  | unreadable path _ => s!"failed to read compiled shader at {path}"
  | malformed path _ => s!"failed to parse compiled shader at {path}"
  | unnamed path => s!"compiled shader path has no file name: {path}"

/-- What failed and why. -/
def message (error : RegisterError) : String :=
  match error with
  | unreadable _ failure => error.summary ++ ": " ++ failure.message
  | malformed _ cause => error.summary ++ ": " ++ cause.message
  | unnamed _ => error.summary

end RegisterError

namespace Registry

/-- The registry without entries. -/
def empty : Registry := ⟨[]⟩

instance : Inhabited Registry := ⟨empty⟩

/-- The registry with an entry registered last, in the stead of one with its identifier and source type. -/
def insert (registry : Registry) (entry : ShaderEntry) : Registry :=
  ⟨registry.entries.filter (fun old =>
    ¬(old.identifier = entry.identifier ∧ old.sourceType = entry.sourceType)) ++ [entry]⟩

/-- The registry with entries registered in order. -/
def insertAll (registry : Registry) (entries : List ShaderEntry) : Registry :=
  entries.foldl insert registry

/-- The earliest entry of an identifier. -/
def find? (registry : Registry) (identifier : String) : Option ShaderEntry :=
  registry.entries.find? (·.identifier = identifier)

/-- The entry of an identifier and a source type. -/
def findTyped? (registry : Registry) (identifier sourceType : String) : Option ShaderEntry :=
  registry.entries.find? fun entry => entry.identifier = identifier && entry.sourceType = sourceType

/-- The node definition of a type. -/
def definition? (registry : Registry) (type : String) : Option ShaderEntry :=
  registry.findTyped? type ShaderEntry.definitionType

/-- A map with a value under a name, unless there is one. -/
def withDefault (metadata : Dict String) (name value : String) : Dict String :=
  if metadata.contains name then metadata else metadata.insert name value

/-- The plug of a parameter that a compiled shader declares. -/
def plugOf (parameter : Artifact.Parameter) : EntryPlug :=
  ⟨parameter.name, parameter.type, none⟩

/-- The entry for a compiled shader: it is identified by the stem of its file. -/
def entryOf (path : Path) (content : Except ReadFailure String) (metadata : Dict String)
    (subIdentifier sourceType : String) : Except RegisterError ShaderEntry :=
  match content with
  | .error failure => .error (.unreadable path failure)
  | .ok text =>
    -- The text is looked at before the path.
    match Artifact.ofText text with
    | .error cause => .error (.malformed path cause)
    | .ok artifact =>
      match Path.stem? path with
      | none => .error (.unnamed path)
      | some identifier =>
        .ok {
          identifier
          sourceType
          family := ""
          role := none
          inputs := artifact.inputs.map plugOf
          outputs := artifact.outputs.map plugOf
          -- What the caller gave under these names is kept.
          metadata :=
            withDefault (withDefault metadata "subIdentifier" subIdentifier) "shaderName" artifact.name
          assetPath := some path }

/-- The entry for a compiled shader, and the registry that holds it. -/
def register (registry : Registry) (path : Path) (content : Except ReadFailure String)
    (metadata : Dict String) (subIdentifier sourceType : String) :
    Except RegisterError (ShaderEntry × Registry) :=
  (entryOf path content metadata subIdentifier sourceType).map fun entry =>
    (entry, registry.insert entry)

end Registry

end ShadeBake
