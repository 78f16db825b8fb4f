import ShadeBake.Proofs.Bake.Complete
import ShadeBake.Proofs.Conversion.Placement
import ShadeBake.Proofs.Document.Build
import ShadeBake.Proofs.Registry.Bundled

/-! The preview surface after a run: all its inputs are those of its adapter, but for the normal, which moves
to a name that this adapter lacks once its source is converted. -/

namespace ShadeBake

namespace Registry

/-- The bundled adapter of the preview surface. -/
theorem findTyped?_preview :
    bundled.findTyped? Surface.preview.adapter ShaderEntry.shaderType =
      some usdPreviewSurfaceParameters := by
  -- The bundled registry is searched as the list that it was read from.
  rw [bundled_eq]
  rfl

/-- The adapter of the preview surface has all inputs of the surface. -/
theorem preview_inputs :
    usdPreviewSurfaceSurfaceshader.inputNames = usdPreviewSurfaceParameters.inputNames := by
  -- Both are entries of the bundled table, whose names are compared.
  decide

/-- Of the reserved inputs, the preview surface has the normal alone. -/
theorem preview_reserved {input : String} (declared : input ∈ usdPreviewSurfaceSurfaceshader.inputNames)
    (reserved : adapterName input ≠ input) : input = "normal" := by
  -- The shader has few inputs, and only one of them is renamed.
  revert input
  decide

/-- None of the names that the adapters have for reserved inputs is an input of the preview surface. -/
theorem preview_unreserved :
    ∀ reserved ∈ reservedInputs, reserved.2 ∉ usdPreviewSurfaceSurfaceshader.inputNames := by
  -- The table of reserved inputs is checked row by row.
  decide

end Registry

namespace Bake

variable {σ : Type} {context : BakeContext} {compile : Compiler σ} {registry : Registry} {compiler : σ}
  {network : Network} {terminal : String}

/-- A run leaves the surface node with the connections that rewriting the network gave it. -/
theorem input?_bake (found : surfaceNode? registry network = some terminal) (slot : String) :
    (network.bake context compile registry compiler).network.input? terminal slot =
      (rewriting context compile registry compiler network terminal).network.input? terminal slot := by
  rw [bake_eq context compile registry compiler network terminal found, ← Conversion.input?_finish,
    ← (convertInputs_eq context compile registry compiler network terminal).1]
  unfold transform
  -- Adapting the terminal connects its closure only.
  cases transformed : (convertInputs context compile registry compiler network
      terminal).network.transformTerminal
      (convertInputs context compile registry compiler network terminal).registry terminal with
  | ok adapted =>
    obtain ⟨surface, adapter, closure, _, rfl⟩ := Network.eq_adapt_of_transformTerminal transformed
    exact Network.input?_adapt _ terminal surface adapter closure slot
  | error warning => rfl

/-- A slot of the surface node reads after a run what it read before, or what an input read whose name for
the adapters it is. -/
theorem readsFromInputs_rewriting :
    Conversion.ReadsFromInputs network terminal
      (rewriting context compile registry compiler network terminal) :=
  -- At the start each slot reads what it reads.
  Conversion.readsFromInputs_run _ fun slot _ connected => ⟨slot, connected, .inl rfl⟩

/-- The inputs of a clear surface node are placed by a run. -/
theorem placed_rewriting (clear : network.Clear terminal)
    (unread : ∀ input connection, network.input? terminal input = some connection →
      connection.source ≠ terminal)
    {input : String} {connection : Connection} (connected : network.input? terminal input = some connection) :
    Conversion.Placed terminal input connection
      (rewriting context compile registry compiler network terminal) := by
  -- The invariant of the run is that visited inputs are placed, and all inputs are visited in the end.
  have starts := Conversion.accounts_start compile
    (routedDocument context registry network terminal).document context.library.searchPaths registry compiler
    network terminal
  have upTo := Conversion.placedUpTo_run clear unread (network.inputNames terminal)
    (network.inputNames_nodup terminal) (fun _ => Network.mem_inputNames_iff.1) starts
    (Conversion.placedUpTo_start registry compiler clear)
  exact (upTo.placed input connection connected List.not_mem_nil).1

/-- The preview surface keeps to the inputs of its adapter exactly while its normal is not moved. -/
theorem preview_bake (found : surfaceNode? Registry.bundled network = some terminal)
    (declared : ∀ input ∈ network.inputNames terminal,
      input ∈ Registry.usdPreviewSurfaceSurfaceshader.inputNames) :
    let baked := network.bake context compile Registry.bundled compiler
    let rewritten := rewriting context compile Registry.bundled compiler network terminal
    ((∀ slot ∈ baked.network.inputNames terminal, slot ∈ Registry.usdPreviewSurfaceParameters.inputNames) ↔
      baked.network.input? terminal "input_normal" = none) ∧
    (∀ connection, baked.network.input? terminal "input_normal" = some connection →
      network.input? terminal "normal" = some connection ∧
        connection.source ∈ rewritten.summary.converted) ∧
    ((∀ input connection, network.input? terminal input = some connection →
        connection.source ≠ terminal) →
      ∀ connection, network.input? terminal "normal" = some connection →
        connection.source ∈ rewritten.summary.converted →
        .missingOutput connection.output connection.source ∉ rewritten.warnings →
          baked.network.input? terminal "input_normal" = some connection ∧
            baked.network.input? terminal "normal" = none) := by
  intro baked rewritten
  have places : ∀ slot, baked.network.input? terminal slot = rewritten.network.input? terminal slot :=
    input?_bake found
  have lacks : "input_normal" ∉ Registry.usdPreviewSurfaceParameters.inputNames := by decide
  -- A slot that is connected comes from an input of the surface.
  have comes : ∀ slot connection, baked.network.input? terminal slot = some connection →
      slot ∈ Registry.usdPreviewSurfaceParameters.inputNames ∨
        (slot = "input_normal" ∧ network.input? terminal "normal" = some connection ∧
          connection.source ∈ rewritten.summary.converted) := by
    intro slot connection connected
    rw [places] at connected
    obtain ⟨input, original, place⟩ := readsFromInputs_rewriting slot connection connected
    have known := declared input (Network.mem_inputNames_iff.2 ⟨connection, original⟩)
    by_cases own : slot = input
    -- A slot of its own is an input of the surface, and so one of the adapter.
    · exact .inl (own ▸ Registry.preview_inputs ▸ known)
    · obtain ⟨renamed, converted⟩ := place.resolve_left own
      obtain rfl := Registry.preview_reserved known (fun same => own (renamed.trans same))
      exact .inr ⟨renamed, original, converted⟩
  refine ⟨⟨fun all => ?_, fun free slot inside => ?_⟩, fun connection connected => ?_,
    fun unread connection original converted unwarned => ?_⟩
  -- Connected, the slot would be an input of the adapter, which lacks it.
  · refine Classical.byContradiction fun connected => ?_
    obtain ⟨connection, read⟩ := Option.ne_none_iff_exists'.1 connected
    exact lacks (all _ (Network.mem_inputNames_iff.2 ⟨connection, read⟩))
  · obtain ⟨connection, connected⟩ := Network.mem_inputNames_iff.1 inside
    rcases comes slot connection connected with known | ⟨rfl, _⟩
    · exact known
    · simp [free] at connected
  · exact ((comes _ connection connected).resolve_left lacks).2
  · -- None of the names that the adapters reserve is an input of the preview surface.
    have clear : network.Clear terminal := by
      intro reserved inside
      refine Classical.byContradiction fun connected => ?_
      obtain ⟨found, read⟩ := Option.ne_none_iff_exists'.1 connected
      exact Registry.preview_unreserved reserved inside
        (declared _ (Network.mem_inputNames_iff.2 ⟨found, read⟩))
    have moved : adapterName "normal" = "input_normal" := by decide
    -- A normal whose source is converted stands under its new name, or there is a warning.
    rcases placed_rewriting clear unread original with ⟨plain, _⟩ | ⟨_, freed, bound | ⟨_, warned⟩⟩
    · exact absurd converted plain
    · rw [places, places]
      exact ⟨moved ▸ bound, freed (by decide)⟩
    · exact absurd warned unwarned

end Bake

/-- Baking a material whose surface is a preview surface leaves it with inputs of its adapter exactly while
its normal is not moved to the name that the adapters reserve. The normal is moved only once its source is
converted, and then always, unless a warning says that its output is missing. -/
theorem Network.bakeMaterial_preview {σ : Type} (context : BakeContext) (compile : Compiler σ)
    (compiler : σ) (materialPath : String) (network : Network) (terminal : String)
    (found : Bake.surfaceNode? Registry.bundled network = some terminal)
    (typed : network.typeOf terminal = Surface.preview.nodeType)
    (declared : ∀ definition, Registry.bundled.definition? (network.typeOf terminal) = some definition →
      ∀ input ∈ network.inputNames terminal, input ∈ definition.inputNames) :
    let entry := if materialPath = "" then network else { network with materialPath }
    let baked := network.bakeMaterial context compile Registry.bundled compiler materialPath
    let rewritten := Bake.rewriting context compile Registry.bundled compiler entry terminal
    ∃ adapter, Registry.bundled.findTyped? Surface.preview.adapter ShaderEntry.shaderType = some adapter ∧
    ((∀ slot ∈ baked.network.inputNames terminal, slot ∈ adapter.inputNames) ↔
      baked.network.input? terminal "input_normal" = none) ∧
    (∀ connection, baked.network.input? terminal "input_normal" = some connection →
      network.input? terminal "normal" = some connection ∧
        connection.source ∈ rewritten.summary.converted) ∧
    ((∀ input connection, network.input? terminal input = some connection →
        connection.source ≠ terminal) →
      ∀ connection, network.input? terminal "normal" = some connection →
        connection.source ∈ rewritten.summary.converted →
        .missingOutput connection.output connection.source ∉ rewritten.warnings →
          baked.network.input? terminal "input_normal" = some connection ∧
            baked.network.input? terminal "normal" = none) := by
  -- The declared inputs are those of the bundled surface shader, whose type the terminal has.
  have own : ∀ input ∈ network.inputNames terminal,
      input ∈ Registry.usdPreviewSurfaceSurfaceshader.inputNames :=
    declared _ (typed ▸ Registry.definition?_preview)
  refine ⟨_, Registry.findTyped?_preview, ?_⟩
  unfold bakeMaterial
  -- The material's path is no part of the nodes or the bindings.
  split
  · exact Bake.preview_bake found own
  · exact Bake.preview_bake found own

namespace Bake.Preview

/-- A material with a preview surface whose normal reads a node. -/
def network : Network where
  materialPath := "/M"
  nodes := Dict.ofList [
    ("/M/n", ⟨"bump", Dict.empty, Dict.empty⟩),
    ("/M/t", ⟨Surface.preview.nodeType, Dict.empty, Dict.ofList [("normal", ⟨"/M/n", "out"⟩)]⟩)]
  terminals := Dict.ofList [("surface", ⟨"/M/t", "out"⟩)]

/-- A run with the one definition that the material uses and that is not a bundled one. -/
def context : BakeContext where
  library := ⟨[], Dict.ofList [("bump",
    ⟨"bump", "bump", "vector3", [], [("out", "vector3")], Dict.empty⟩)]⟩
  resolver := .below none
  nativeExtension := "tex"
  plugin := "rtx.so"

/-- A compiler that makes the same shader of every source. -/
def compile : Compiler Unit := fun _ _ state =>
  (⟨some ⟨"bump.oso", .ok "shader bump\noparam vector out"⟩, []⟩, state)

/-- The definitions of the two types of the material. -/
def definitions : Registry where
  entries := [
    { identifier := "bump", sourceType := ShaderEntry.definitionType, family := "bump"
      role := none, inputs := [], outputs := [⟨"out", "vector3", none⟩]
      metadata := Dict.empty, assetPath := none },
    Registry.usdPreviewSurfaceSurfaceshader]

/-- The bundled definitions and the library describe the nodes of the material as these two do. -/
theorem describe_bundled (path : String) :
    (⟨Registry.bundled, context.library⟩ : Vocabulary).describe (network.typeOf path) =
      (⟨definitions, DefinitionLibrary.empty⟩ : Vocabulary).describe (network.typeOf path) := by
  -- A name that is not among the nodes has the empty type.
  have types : network.typeOf path = Surface.preview.nodeType ∨
      network.typeOf path = "bump" ∨ network.typeOf path = "" := by
    by_cases inside : path ∈ network.nodeNames
    · have names : network.nodeNames = ["/M/n", "/M/t"] := by decide
      rw [names] at inside
      simp only [List.mem_cons, List.not_mem_nil, or_false] at inside
      rcases inside with rfl | rfl
      · exact .inr (.inl (by decide))
      · exact .inl (by decide)
    · exact .inr (.inr (by simp [Network.typeOf, Network.type?, Network.get?_eq_none inside]))
  simp only [Vocabulary.describe, NodeDescription.of, Registry.bundled_eq]
  -- The two registries describe these types alike.
  rcases types with same | same | same
  · rw [same]
    rfl
  · rw [same]
    rfl
  · rw [same]
    rfl

/-- The source for the node is generated. -/
theorem generate_ok : ∃ source, Shader.generate
    (routedDocument context Registry.bundled network "/M/t").document context.library.searchPaths
    (Conversion.shaderNameFor "/M/n") (NodePath.leaf "/M/n") (NodePath.parent "/M/n") = .ok source := by
  -- No node samples a texture, so the two definitions are all that the document comes from.
  have same : (routedDocument context Registry.bundled network "/M/t").document =
      (routedDocument Shared.context definitions network "/M/t").document := by
    have built := Document.build_congr describe_bundled "/M/t" (network.inputNames "/M/t")
    have textures : (Document.build ⟨definitions, DefinitionLibrary.empty⟩ network "/M/t"
        (network.inputNames "/M/t")).texturePaths.keys.length = 0 := by cbv
    simp only [routedDocument, Shared.context, built, Document.routeTextures, List.length_eq_zero_iff.1 textures,
      List.foldl_nil]
  rw [same]
  obtain ⟨program, result⟩ : ∃ program, Shader.program
      (routedDocument Shared.context definitions network "/M/t").document context.library.searchPaths
      (Conversion.shaderNameFor "/M/n") (NodePath.leaf "/M/n") (NodePath.parent "/M/n") = .ok program :=
    ok_of_isSome (by cbv)
  exact ⟨program.text, Shader.generate_of_program result⟩

/-- The node is converted without a warning. -/
theorem rewritten :
    let rewritten := rewriting context compile Registry.bundled () network "/M/t"
    (rewritten.summary.converted, rewritten.warnings) = (["/M/n"], []) := by
  have reads : network.inputNames "/M/t" = ["normal"] := by decide
  have connected : network.input? "/M/t" "normal" = some ⟨"/M/n", "out"⟩ := by decide
  have present : network.hasNode "/M/n" = true := by decide
  have new : Dict.contains (Dict.empty : NameSet) "/M/n" = false := rfl
  obtain ⟨source, generated⟩ := generate_ok
  unfold rewriting
  -- Neither the document nor the registry matters once there is a source.
  generalize routedDocument context Registry.bundled network "/M/t" = routed at generated
  generalize Registry.bundled = registry
  simp only [reads, Conversion.run, List.foldl, Conversion.step, connected, present, new, if_true, if_false,
    Bool.false_eq_true, Conversion.compileNode, generated]
  cbv

/-- The normal of the baked material is moved to a name that its adapter lacks. -/
theorem normal_moves :
    let baked := network.bakeMaterial context compile Registry.bundled () ""
    baked.network.input? "/M/t" "input_normal" = some ⟨"/M/n", "out"⟩ ∧
    baked.network.input? "/M/t" "normal" = none ∧
    ∃ adapter, Registry.bundled.findTyped? Surface.preview.adapter ShaderEntry.shaderType = some adapter ∧
      ¬∀ slot ∈ baked.network.inputNames "/M/t", slot ∈ adapter.inputNames := by
  -- The terminal has a single input, whose source is converted without a warning.
  have typed : network.typeOf "/M/t" = Surface.preview.nodeType := by decide
  have defines := Registry.definition?_preview
  have found : surfaceNode? Registry.bundled network = some "/M/t" := by
    have bound : network.terminal? Network.surfaceTerminal = some ⟨"/M/t", "out"⟩ := by decide
    simp only [surfaceNode?, bound, typed, defines, Option.bind_eq_bind, Option.bind_some, Option.pure_def]
  have unread : ∀ input connection, network.input? "/M/t" input = some connection →
      connection.source ≠ "/M/t" := Network.source_ne_of_inputs (by decide)
  have declared : ∀ definition, Registry.bundled.definition? (network.typeOf "/M/t") = some definition →
      ∀ input ∈ network.inputNames "/M/t", input ∈ definition.inputNames := by
    intro other defines' input inside
    rw [typed, defines] at defines'
    cases defines'
    have read : network.inputNames "/M/t" = ["normal"] := by decide
    rw [read, List.mem_singleton] at inside
    rw [inside]
    decide
  obtain ⟨converted, warnings⟩ := Prod.mk.inj rewritten
  obtain ⟨adapter, adapts, keeps, _, moves⟩ := Network.bakeMaterial_preview context compile () "" network
    "/M/t" found typed declared
  obtain ⟨moved, freed⟩ := moves unread ⟨"/M/n", "out"⟩ (by decide) (by
    simp only [if_true]
    rw [converted]
    exact List.mem_singleton_self _) (by
    simp only [if_true]
    rw [warnings]
    exact List.not_mem_nil)
  -- The adapter has all connected inputs exactly if the moved one is not connected.
  refine ⟨moved, freed, adapter, adapts, fun all => ?_⟩
  rw [keeps, moved] at all
  simp at all

end Bake.Preview

end ShadeBake
