import Mathlib.Data.List.Nodup
import ShadeBake.Dict.Lemmas
import ShadeBake.Document.Description
import ShadeBake.Proofs.Document.Soundness

/-! Values of the shape that a type asks for, and regular entries, whose types are supported and whose defaults
have the shape of their types. Nodes of regular entries are callable if their literals are of such shape. -/

namespace ShadeBake

/-- The number of components of a value type whose values are lists of numbers. -/
def componentCount? (type : String) : Option Nat :=
  match type with
  | "vector2" => some 2
  | "color3" | "vector3" => some 3
  | "color4" | "vector4" => some 4
  | _ => none

namespace Json

/-- A value is a number. -/
def isNumber : Json → Bool
  | .number _ => true
  | _ => false

/-- A value has the shape that a value type asks for: a number, a text, or as many numbers as the type has
components. -/
def hasShape (type : String) : Json → Bool
  | .number _ => type = "float"
  | .string _ => type = "string" || type = "filename"
  | .array items => componentCount? type = some items.length && items.all isNumber
  | _ => false

end Json

/-- A parameter has the shape that a value type asks for; references stand for texts. -/
def Parameter.hasShape (type : String) : Parameter → Bool
  | .asset _ => type = "string" || type = "filename"
  | .plain value => value.hasShape type

namespace Literal

/-- A list of as many numbers as a type has components fits the type. -/
theorem fits_vector {type : String} {parts : List Binary} (count : componentCount? type = some parts.length) :
    (Literal.vector parts).Fits type := by
  unfold componentCount? at count
  -- The types are listed with their numbers of components.
  split at count
  · obtain ⟨a, b, rfl⟩ := List.length_eq_two.1 (Option.some.inj count).symm
    exact ⟨.vector2, rfl, rfl⟩
  · obtain ⟨a, b, c, rfl⟩ := List.length_eq_three.1 (Option.some.inj count).symm
    exact ⟨.color, rfl, rfl⟩
  · obtain ⟨a, b, c, rfl⟩ := List.length_eq_three.1 (Option.some.inj count).symm
    exact ⟨.vector, rfl, rfl⟩
  · obtain ⟨a, b, c, d, rfl⟩ := List.length_eq_four.1 (Option.some.inj count).symm
    exact ⟨.color4, rfl, rfl⟩
  · obtain ⟨a, b, c, d, rfl⟩ := List.length_eq_four.1 (Option.some.inj count).symm
    exact ⟨.vector4, rfl, rfl⟩
  · simp at count

/-- A text fits the types of texts. -/
theorem fits_string {type : String} (text : type = "string" ∨ type = "filename") (s : String) :
    (Literal.string s).Fits type := by
  -- Both types are texts of the language.
  rcases text with rfl | rfl
  · exact ⟨.string, rfl, rfl⟩
  · exact ⟨.string, rfl, rfl⟩

/-- The literal for a value of the shape that a type asks for fits the type. -/
theorem fits_of_ofJson? {type : String} {value : Json} {literal : Literal} (shaped : value.hasShape type = true)
    (made : ofJson? type value = some literal) : literal.Fits type := by
  cases value with
  | number n =>
    cases of_decide_eq_true shaped
    cases made
    exact ⟨.float, rfl, rfl⟩
  | string s =>
    cases made
    exact fits_string (by simpa [Json.hasShape] using shaped) s
  | array items =>
    simp only [Json.hasShape, Bool.and_eq_true, decide_eq_true_eq] at shaped
    obtain ⟨parts, numbers, rfl⟩ := Option.map_eq_some_iff.1 made
    -- There is one part for each item.
    exact fits_vector (length_of_mapM numbers ▸ shaped.1)
  -- Values of the other kinds have no shape of a supported type.
  | null => simp [Json.hasShape] at shaped
  | bool b => simp [Json.hasShape] at shaped
  | object members => simp [Json.hasShape] at shaped

/-- The literal for a parameter of the shape that a type asks for fits the type. -/
theorem fits_of_ofParameter? {type : String} {value : Parameter} {literal : Literal}
    (shaped : value.hasShape type = true) (made : ofParameter? type value = some literal) :
    literal.Fits type := by
  -- A plain value is read as its type says, and an asset is a text.
  cases value with
  | plain value => exact fits_of_ofJson? shaped made
  | asset reference =>
    cases made
    exact fits_string (by simpa [Parameter.hasShape] using shaped) _

end Literal

/-- A declared plug is regular when its type is supported and its default has the shape of the type. -/
structure EntryPlug.Regular (plug : EntryPlug) : Prop where
  supported : ShaderType.Supports plug.type
  shaped : ∀ value, plug.value = some value → value.hasShape plug.type = true

namespace ShaderEntry

/-- An entry is regular when it is of some family, its inputs are regular and of distinct names, and it has
outputs of supported types. -/
structure Regular (entry : ShaderEntry) : Prop where
  family : entry.family ≠ ""
  distinct : entry.inputNames.Nodup
  inputs : ∀ plug ∈ entry.inputs, plug.Regular
  produces : entry.outputs ≠ []
  outputs : ∀ plug ∈ entry.outputs, ShaderType.Supports plug.type

variable {entry : ShaderEntry}

/-- The description by a regular entry has the declared types. -/
theorem Regular.get?_inputTypes (regular : entry.Regular) {plug : EntryPlug} (inside : plug ∈ entry.inputs) :
    (NodeDescription.ofEntry entry).inputTypes.get? plug.name = some plug.type := by
  -- The inputs have distinct names, so the type is that of the plug.
  refine Dict.get?_ofList_of_mem ?_ (List.mem_map.2 ⟨plug, inside, rfl⟩)
  rw [List.map_map]
  exact regular.distinct

/-- The plugs that a regular entry describes are those that it declares, with usable defaults. -/
theorem Regular.inputPlug (regular : entry.Regular) {plug : EntryPlug} (inside : plug ∈ entry.inputs) :
    ((NodeDescription.ofEntry entry).inputPlug plug.name).name = plug.name ∧
      ((NodeDescription.ofEntry entry).inputPlug plug.name).type = plug.type ∧
      ((NodeDescription.ofEntry entry).inputPlug plug.name).Usable := by
  have type : ((NodeDescription.ofEntry entry).inputPlug plug.name).type = plug.type := by
    simp only [NodeDescription.inputPlug, NodeDescription.inputType, regular.get?_inputTypes inside,
      Option.getD_some]
  refine ⟨rfl, type, type.symm ▸ (regular.inputs plug inside).supported, fun literal default => ?_⟩
  rw [type]
  -- The default is that of a plug of the name, and no other plug has the name.
  have listed := Dict.mem_of_get?_ofList default
  obtain ⟨other, isOther, made⟩ := List.mem_filterMap.1 listed
  obtain ⟨value, given, literal', read, same⟩ : ∃ value, other.value = some value ∧
      ∃ literal', Literal.ofJson? other.type value = some literal' ∧
        (other.name, literal') = (plug.name, literal) := by
    simpa [Option.bind_eq_some_iff] using made
  obtain ⟨named, rfl⟩ := Prod.mk.inj same
  -- Names are distinct, so the two plugs are one.
  cases List.inj_on_of_nodup_map regular.distinct isOther inside named
  exact Literal.fits_of_ofJson? ((regular.inputs plug inside).shaped value given) read

/-- A regular entry describes the plugs that it declares. -/
theorem Regular.signature_ofEntry (regular : entry.Regular) :
    (NodeDescription.ofEntry entry).signature = some
      ⟨entry.inputNames.map (NodeDescription.ofEntry entry).inputPlug,
        entry.outputs.map fun plug => { name := plug.name, type := plug.type }⟩ :=
  -- A regular entry is of a family, and so it has the signature of its plugs.
  if_neg regular.family

/-- A node of a regular entry is callable if it reads default outputs only and its inputs of declared names
suit the types of these. -/
theorem Regular.callable (regular : entry.Regular) {node : Document.Node}
    (category : node.category = entry.family)
    (declared : node.signature = (NodeDescription.ofEntry entry).signature)
    (unnamed : ∀ input ∈ node.inputs, input.output = none)
    (suits : ∀ input ∈ node.inputs, ∀ plug ∈ entry.inputs, input.name = plug.name →
      ShaderType.ofValueType? input.type = ShaderType.ofValueType? plug.type ∧
        ∀ value, input.value = some value → value.Fits plug.type) : node.Callable := by
  rw [regular.signature_ofEntry] at declared
  refine ⟨category ▸ regular.family, ⟨_, declared, fun plug member => ?_, fun input inside =>
    ⟨unnamed input inside, fun plug member named => ?_⟩⟩, fun plug member => ?_⟩
  -- Each described plug is that of a declared input.
  · obtain ⟨name, isName, rfl⟩ := List.mem_map.1 member
    obtain ⟨declaredPlug, isPlug, rfl⟩ := List.mem_map.1 isName
    exact (regular.inputPlug isPlug).2.2
  · obtain ⟨name, isName, rfl⟩ := List.mem_map.1 member
    obtain ⟨declaredPlug, isPlug, rfl⟩ := List.mem_map.1 isName
    obtain ⟨typed, fits⟩ := suits input inside declaredPlug isPlug named
    have type := (regular.inputPlug isPlug).2.1
    exact ⟨type.symm ▸ typed, type.symm ▸ fits⟩
  -- The node has the outputs of the entry, which are of supported types.
  · have outputs : node.outputPlugs =
        entry.outputs.map fun plug => { name := plug.name, type := plug.type } := by
      simp [Document.Node.outputPlugs, declared, regular.produces]
    rw [outputs] at member
    obtain ⟨output, isOutput, rfl⟩ := List.mem_map.1 member
    exact regular.outputs output isOutput

/-- An entry has the plugs of a texture when its file is a file name and its coordinates are there and planar. -/
structure HasTexturePlugs (entry : ShaderEntry) : Prop where
  file : ∀ plug ∈ entry.inputs, plug.name = "file" → plug.type = "filename"
  coordinates : "texcoord" ∈ entry.inputNames
  planar : ∀ plug ∈ entry.inputs, plug.name = "texcoord" → plug.type = "vector2"

/-- A node of a regular entry with the plugs of a texture is textured. -/
theorem Regular.textured (regular : entry.Regular) (plugs : entry.HasTexturePlugs) {node : Document.Node}
    (declared : node.signature = (NodeDescription.ofEntry entry).signature) : node.Textured := by
  -- The plugs of the signature are those of the entry, with their types.
  rw [regular.signature_ofEntry] at declared
  refine ⟨_, declared, fun plug member named => ?_, ?_, fun plug member named => ?_⟩
  · obtain ⟨name, isName, rfl⟩ := List.mem_map.1 member
    obtain ⟨declaredPlug, isPlug, rfl⟩ := List.mem_map.1 isName
    exact (regular.inputPlug isPlug).2.1.trans (plugs.file declaredPlug isPlug named)
  · exact ⟨_, List.mem_map_of_mem plugs.coordinates, rfl⟩
  · obtain ⟨name, isName, rfl⟩ := List.mem_map.1 member
    obtain ⟨declaredPlug, isPlug, rfl⟩ := List.mem_map.1 isName
    exact (regular.inputPlug isPlug).2.1.trans (plugs.planar declaredPlug isPlug named)

end ShaderEntry

end ShadeBake
