import ShadeBake.Proofs.Registry.Register
import ShadeBake.Proofs.Registry.Regular
import ShadeBake.Registry.Bundled
import ShadeBake.Terminal

/-! The bundled registry: its definitions are regular, but for those of the two surfaces. -/

namespace ShadeBake

namespace Registry

/-- The bundled entries are registered as they are. -/
theorem bundled_eq : bundled = ⟨bundledEntries⟩ := by
  have distinct : (bundledEntries.map fun entry => (entry.identifier, entry.sourceType)).Nodup := by
    decide +kernel
  refine insertAll_of_distinct ?_
  -- No two entries agree in both parts of the key.
  refine (List.pairwise_map.1 distinct).imp fun apart same => apart ?_
  exact Prod.ext same.1 same.2

/-- A bundled definition is one of the bundled entries. -/
theorem mem_bundledEntries {type : String} {entry : ShaderEntry}
    (found : bundled.definition? type = some entry) :
    entry ∈ bundledEntries ∧ entry.identifier = type ∧ entry.sourceType = ShaderEntry.definitionType := by
  -- A definition is searched for by its identifier and its kind.
  rw [bundled_eq, definition?, findTyped?] at found
  have named : entry.identifier = type ∧ entry.sourceType = ShaderEntry.definitionType := by
    simpa using List.find?_some found
  exact ⟨List.mem_of_find?_eq_some found, named⟩

/-- All bundled definitions but those of the surfaces are regular. -/
theorem regular_bundled {type : String} {entry : ShaderEntry} (found : bundled.definition? type = some entry)
    (apart : ∀ surface : Surface, type ≠ surface.nodeType) : entry.Regular := by
  -- Every entry of the table is checked, which the kernel does by evaluation.
  have table : ∀ entry ∈ bundledEntries, entry.sourceType = ShaderEntry.definitionType →
      entry.identifier ≠ Surface.nodeType .standard → entry.identifier ≠ Surface.nodeType .preview →
        entry.family ≠ "" ∧ entry.inputNames.Nodup ∧
          (∀ plug ∈ entry.inputs, (ShaderType.ofValueType? plug.type).isSome = true ∧
            plug.value.all (·.hasShape plug.type) = true) ∧
          entry.outputs.isEmpty = false ∧
            ∀ plug ∈ entry.outputs, (ShaderType.ofValueType? plug.type).isSome = true := by
    decide +kernel
  obtain ⟨inside, rfl, source⟩ := mem_bundledEntries found
  obtain ⟨family, distinct, inputs, produces, outputs⟩ := table entry inside source (apart _) (apart _)
  refine ⟨family, distinct, fun plug isPlug => ⟨(inputs plug isPlug).1, fun value given => ?_⟩, ?_, outputs⟩
  · simpa [given] using (inputs plug isPlug).2
  · simpa using produces

/-- All bundled textures have the plugs of textures. -/
theorem hasTexturePlugs_bundled {type : String} {entry : ShaderEntry}
    (found : bundled.definition? type = some entry) (texture : entry.isTexture = true) :
    entry.HasTexturePlugs := by
  -- Every entry of the table is checked, which the kernel does by evaluation.
  have table : ∀ entry ∈ bundledEntries, entry.isTexture = true →
      (∀ plug ∈ entry.inputs, plug.name = "file" → plug.type = "filename") ∧
        "texcoord" ∈ entry.inputNames ∧
          ∀ plug ∈ entry.inputs, plug.name = "texcoord" → plug.type = "vector2" := by
    decide +kernel
  obtain ⟨file, coordinates, planar⟩ := table entry (mem_bundledEntries found).1 texture
  exact ⟨file, coordinates, planar⟩

/-- The bundled definition of the standard surface. -/
theorem definition?_standard :
    bundled.definition? Surface.standard.nodeType = some standardSurfaceSurfaceshader := by
  -- The bundled registry is searched as the list that it was read from.
  rw [bundled_eq]
  rfl

/-- The bundled definition of the preview surface. -/
theorem definition?_preview :
    bundled.definition? Surface.preview.nodeType = some usdPreviewSurfaceSurfaceshader := by
  -- The bundled registry is searched as the list that it was read from.
  rw [bundled_eq]
  rfl

/-- Both surfaces have bundled definitions. -/
theorem definition?_surface (surface : Surface) : bundled.definition? surface.nodeType ≠ none := by
  -- Both surfaces have been looked up.
  cases surface with
  | standard => simp [definition?_standard]
  | preview => simp [definition?_preview]

/-- The bundled definition of the nodes that read coordinates. -/
theorem definition?_reader : bundled.definition? Texture.reader = some geompropvalueVector2 := by
  -- The bundled registry is searched as the list that it was read from.
  rw [bundled_eq]
  rfl

/-- The bundled definition of the nodes that turn coordinates. -/
theorem definition?_remapper : bundled.definition? Texture.remapper = some remapVector2 := by
  -- The bundled registry is searched as the list that it was read from.
  rw [bundled_eq]
  rfl

end Registry

end ShadeBake
