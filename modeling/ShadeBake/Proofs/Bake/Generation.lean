import ShadeBake.Proofs.Bake.Complete
import ShadeBake.Proofs.Conversion.Coverage
import ShadeBake.Proofs.Document.WellFormed

/-! Baking a well-formed material generates a shader for each node that the surface reads. -/

namespace ShadeBake

/-- The plugs that the bundled registry declares for a type are those of its definition. -/
theorem Registry.signature?_bundled {type : String} {entry : ShaderEntry}
    (found : bundled.definition? type = some entry) :
    bundled.signature? type = (NodeDescription.ofEntry entry).signature := by
  -- The registry describes the type, so the definition files are not asked.
  simp only [signature?, NodeDescription.of, found]

namespace Bake

open Document (Graph Node)

variable (context : BakeContext)

/-- The nodes that read coordinates are callable. -/
theorem callable_readerNode (name primvar : String) :
    (Texture.readerNode (textureContext context Registry.bundled) name primvar).Callable := by
  have regular := Registry.regular_bundled Registry.definition?_reader fun surface => by
    cases surface <;> decide
  refine regular.callable rfl (Registry.signature?_bundled Registry.definition?_reader)
    (fun input member => ?_) fun input member plug isPlug named => ?_
  · cases List.mem_singleton.1 member
    rfl
  · cases List.mem_singleton.1 member
    -- The variable is named by a text.
    rcases List.mem_pair.1 isPlug with rfl | rfl
    · refine ⟨rfl, fun value isText => ?_⟩
      cases isText
      exact Literal.fits_string (.inl rfl) primvar
    · simp [Registry.vectorInput] at named

/-- The nodes that turn coordinates are callable, wherever these come from by default. -/
theorem callable_remapperNode (name : String) (source : Option Document.Input)
    (default : ∀ input, source = some input →
      input.output = none ∧ ∀ value, input.value = some value → value.Fits "vector2") :
    (Texture.remapperNode (textureContext context Registry.bundled) name source).Callable := by
  have regular := Registry.regular_bundled Registry.definition?_remapper fun surface => by
    cases surface <;> decide
  have planar : ∀ plug ∈ Registry.remapVector2.inputs, plug.type = "vector2" := by decide
  -- The bounds are pairs of numbers, and what is turned is planar too.
  have suits : ∀ input ∈ (Texture.remapperNode (textureContext context Registry.bundled) name source).inputs,
      input.output = none ∧ ShaderType.ofValueType? input.type = ShaderType.ofValueType? "vector2" ∧
        ∀ value, input.value = some value → value.Fits "vector2" := by
    intro input member
    simp only [Texture.remapperNode, List.mem_cons, List.not_mem_nil, or_false] at member
    rcases member with rfl | rfl | rfl
    · cases source with
      | none => exact ⟨rfl, rfl, by simp⟩
      | some input => exact ⟨(default input rfl).1, rfl, (default input rfl).2⟩
    · exact ⟨rfl, rfl, fun value bound => by cases bound; exact Literal.fits_vector rfl⟩
    · exact ⟨rfl, rfl, fun value bound => by cases bound; exact Literal.fits_vector rfl⟩
  refine regular.callable rfl (Registry.signature?_bundled Registry.definition?_remapper)
    (fun input member => (suits input member).1) fun input member plug isPlug named => ?_
  rw [planar plug isPlug]
  exact (suits input member).2

variable {network : Network} {terminal : String}

/-- Once the textures of a well-formed material are routed, its document has sound graphs in which all that feeds
the terminal is named. -/
theorem sound_routedDocument (wellFormed : network.WellFormed terminal) :
    let routed := (routedDocument context Registry.bundled network terminal).document
    (∀ graph ∈ routed.graphs, graph.Sound) ∧ ∀ path, network.Feeds terminal path →
      ∃ graph ∈ routed.graphs, NodePath.leaf path ∈ graph.nodes.map (·.name) := by
  obtain ⟨sounds, named⟩ := wellFormed.sound_build context.library
  have textures : ∀ path ∈ Dict.keys (Document.build (.bundled context.library) network terminal
      (network.inputNames terminal)).texturePaths, network.Feeds terminal path ∧
        ((Vocabulary.bundled context.library).describe (network.typeOf path)).isTexture = true :=
    fun path member => (Document.mem_texturePaths_build member).imp_left DocumentBuilder.reached_iff_feeds.1
  obtain ⟨routed, keeps⟩ := Document.sound_routeTextures (callable_readerNode context)
    (callable_remapperNode context) network
    (List.Nodup.map_on (fun path inside other inside' same =>
      wellFormed.leaf_inj (textures path inside).1 (textures other inside').1 same) (Dict.keys_nodup _))
    (fun path inside other inside' =>
      wellFormed.apart path other (textures path inside).1 (textures other inside').1)
    (fun graph there => (sounds graph there).1)
    fun graph there node inside path isTexture => by
      obtain ⟨other, feeds, rfl⟩ := (sounds graph there).2 node inside
      exact wellFormed.awaits context.library feeds (textures path isTexture).1 (textures path isTexture).2
  -- The nodes outside the graphs that are taken away are none of these.
  exact ⟨routed, fun path feeds => keeps _ (named path feeds)⟩

/-- A shader is generated for all that feeds the terminal of a well-formed material. -/
theorem exists_generate (wellFormed : network.WellFormed terminal) {path : String}
    (feeds : network.Feeds terminal path) (name hint : String) :
    ∃ source, Shader.generate (routedDocument context Registry.bundled network terminal).document
      context.library.searchPaths name (NodePath.leaf path) hint = .ok source := by
  -- The routed document of a well-formed network is sound, and from such documents all nodes are generated.
  obtain ⟨sound, named⟩ := sound_routedDocument context wellFormed
  exact Shader.exists_generate sound (named path feeds) context.library.searchPaths name hint

/-- A surface slot that is bound to one of the surfaces has a surface node. -/
theorem surfaceNode?_of_surface {binding : Connection}
    (bound : network.terminal? Network.surfaceTerminal = some binding) {surface : Surface}
    (typed : network.typeOf binding.source = surface.nodeType) :
    surfaceNode? Registry.bundled network = some binding.source := by
  -- The binding is that of a node whose type is among the bundled definitions.
  obtain ⟨entry, found⟩ := Option.ne_none_iff_exists'.1 (Registry.definition?_surface surface)
  simp only [surfaceNode?, bound, typed, found, Option.bind_eq_bind, Option.bind_some, Option.pure_def]

variable {σ : Type} (compile : Compiler σ) (registry : Registry) (compiler : σ)

/-- A run reports the shaders that are generated in converting the inputs of its surface. -/
theorem generated_bake (found : surfaceNode? registry network = some terminal) :
    (network.bake context compile registry compiler).report.generated =
      (rewriting context compile registry compiler network terminal).summary.generated := by
  rw [bake_eq context compile registry compiler network terminal found]
  -- Transforming the surface leaves the count.
  have transformed : (transform (convertInputs context compile registry compiler network terminal)
      terminal).report.generated =
        (convertInputs context compile registry compiler network terminal).report.generated := by
    unfold transform
    split
    · rfl
    · rfl
  rw [transformed, convertInputs]
  split
  -- Where nothing is read, nothing is generated.
  · rename_i nothing
    rw [rewriting, nothing]
    rfl
  · rfl

/-- A run on a well-formed material generates the shaders of all that its surface reads. -/
theorem generates_bake {surface : Surface} (wellFormed : network.WellFormed terminal)
    (found : surfaceNode? Registry.bundled network = some terminal)
    (typed : network.typeOf terminal = surface.nodeType) :
    let document := (routedDocument context Registry.bundled network terminal).document
    let rewritten := rewriting context compile Registry.bundled compiler network terminal
    (∀ source, network.Reads terminal source → ∃ text, Shader.generate document context.library.searchPaths
      (Conversion.shaderNameFor source) (NodePath.leaf source) (NodePath.parent source) = .ok text) ∧
    ((∀ source, network.Reads terminal source → ∃ input connection,
        network.input? terminal input = some connection ∧ connection.source = source ∧
          ¬network.Displaced terminal rewritten.summary.converted input) →
      (network.bake context compile Registry.bundled compiler).report.generated =
        (network.sources terminal).dedup.length) := by
  -- What feeds the terminal can be generated, so no visit ends before a source is counted.
  intro document rewritten
  have generates : ∀ source, network.Reads terminal source → ∃ text,
      Shader.generate document context.library.searchPaths (Conversion.shaderNameFor source)
        (NodePath.leaf source) (NodePath.parent source) = .ok text :=
    fun source reads => exists_generate context wellFormed (.single reads) _ _
  refine ⟨generates, fun covered => ?_⟩
  -- The count is that of the entries that the visits of the sources made.
  rw [generated_bake context compile Registry.bundled compiler found]
  refine Conversion.generated_run compile document context.library.searchPaths Registry.bundled compiler
    (fun input connection => wellFormed.source_ne typed) (fun source reads => ?_) covered
  obtain ⟨text, generated⟩ := generates source reads
  rw [Document.generates, generated]
  rfl

end Bake

/-- Baking a well-formed material with the bundled registry generates a shader for each node that its surface
reads: none of them fails, and the report counts them all, if each is read at some input which is not displaced
by a converted node. -/
theorem Network.bakeMaterial_generates {σ : Type} (context : BakeContext) (compile : Compiler σ) (compiler : σ)
    (materialPath : String) (network : Network) {binding : Connection}
    (bound : network.terminal? Network.surfaceTerminal = some binding) {surface : Surface}
    (typed : network.typeOf binding.source = surface.nodeType) (wellFormed : network.WellFormed binding.source) :
    let entry := if materialPath = "" then network else { network with materialPath }
    let document := (Bake.routedDocument context Registry.bundled entry binding.source).document
    let rewritten := Bake.rewriting context compile Registry.bundled compiler entry binding.source
    (∀ source, network.Reads binding.source source → ∃ text,
      Shader.generate document context.library.searchPaths (Conversion.shaderNameFor source)
        (NodePath.leaf source) (NodePath.parent source) = .ok text) ∧
    ((∀ source, network.Reads binding.source source → ∃ input connection,
        network.input? binding.source input = some connection ∧ connection.source = source ∧
          ¬network.Displaced binding.source rewritten.summary.converted input) →
      (network.bakeMaterial context compile Registry.bundled compiler materialPath).report.generated =
        (network.sources binding.source).dedup.length) := by
  have found := Bake.surfaceNode?_of_surface bound typed
  -- The material's path is no part of the nodes or the bindings.
  by_cases own : materialPath = ""
  · simp only [bakeMaterial, if_pos own]
    exact Bake.generates_bake context compile compiler wellFormed found typed
  · have generates := Bake.generates_bake context compile compiler (wellFormed.withPath materialPath) found typed
    simp only [bakeMaterial, if_neg own]
    exact generates

namespace Bake.Textured

/-- A material whose surface reads a constant, and an image at coordinates that a third node reads. -/
def network : Network where
  materialPath := "/M"
  nodes := Dict.ofList [
    ("/M/NG/c", ⟨"ND_constant_float", Dict.ofList [("value", .plain (.number (.integer 1)))], Dict.empty⟩),
    ("/M/NG/i", ⟨"ND_image_color3", Dict.ofList [("file", .asset ⟨"wood.tex", none⟩)],
      Dict.ofList [("texcoord", ⟨"/M/NG/st", "out"⟩)]⟩),
    ("/M/NG/st", ⟨"ND_geompropvalue_vector2", Dict.ofList [("geomprop", .plain (.string "uv"))], Dict.empty⟩),
    ("/M/t", ⟨Surface.standard.nodeType, Dict.empty,
      Dict.ofList [("base", ⟨"/M/NG/c", "out"⟩), ("base_color", ⟨"/M/NG/i", "out"⟩)]⟩)]
  terminals := Dict.ofList [("surface", ⟨"/M/t", "out"⟩)]

/-- The nodes that feed the surface. -/
def feeding : List String :=
  ["/M/NG/c", "/M/NG/i", "/M/NG/st"]

/-- No other node feeds the surface. -/
theorem mem_feeding {path : String} (feeds : network.Feeds "/M/t" path) : path ∈ feeding := by
  -- The list holds what the terminal reads and is closed.
  have closed : ∀ node ∈ feeding, ∀ source ∈ network.sources node, source ∈ feeding := by decide
  exact feeds.mem (fun node inside source reads => .inl (closed node inside source
    (Network.mem_sources_iff.2 reads))) (by decide)

/-- The bundled definitions of these nodes, with parameters of the shapes that they declare. -/
theorem definition_feeding {path : String} (inside : path ∈ feeding) :
    ∃ entry, Registry.bundled.definition? (network.typeOf path) = some entry ∧
      ∀ plug ∈ entry.inputs, (network.parameter? path plug.name).all (·.hasShape plug.type) = true := by
  -- There are three nodes, and each has its own bundled definition.
  simp only [feeding, List.mem_cons, List.not_mem_nil, or_false] at inside
  rw [Registry.bundled_eq]
  rcases inside with rfl | rfl | rfl
  · exact ⟨Registry.constantFloat, rfl, by decide⟩
  · exact ⟨Registry.imageColor3, rfl, by decide⟩
  · exact ⟨Registry.geompropvalueVector2, rfl, by decide⟩

/-- The material is well-formed. -/
theorem wellFormed : network.WellFormed "/M/t" where
  -- The rank falls along every edge.
  acyclic path _ := Network.not_feeds_self
    (fun path => if path = "/M/t" then 2 else if path = "/M/NG/i" then 1 else 0) (by decide) path
  placed := ⟨"/M/NG", fun path feeds => by
    have below : ∀ path ∈ feeding, ∃ leaf ∈ ["c", "i", "st"], NodePath.IsComponent leaf ∧
        path = NodePath.below "/M/NG" leaf := by decide
    obtain ⟨leaf, _, placed⟩ := below path (mem_feeding feeds)
    exact ⟨leaf, placed⟩⟩
  apart path other feeds feeds' := by
    -- Every condition is about the paths of the list, where it is decided case by case.
    have names : ∀ path ∈ feeding, ∀ other ∈ feeding,
        NodePath.leaf other ≠ Texture.readerName (NodePath.leaf path) ∧
          NodePath.leaf other ≠ Texture.remapperName (NodePath.leaf path) := by decide
    exact names path (mem_feeding feeds) other (mem_feeding feeds')
  typed path feeds := by
    obtain ⟨entry, found, _⟩ := definition_feeding (mem_feeding feeds)
    simp [found]
  inner path feeds := by
    have types : ∀ path ∈ feeding, network.typeOf path ≠ Surface.standard.nodeType ∧
        network.typeOf path ≠ Surface.preview.nodeType := by decide
    obtain ⟨standard, preview⟩ := types path (mem_feeding feeds)
    intro surface
    cases surface
    · exact standard
    · exact preview
  outputs path feeds name connection connected := by
    have named : ∀ path ∈ feeding, ∀ entry ∈ network.inputs path, entry.2.output = defaultOutputName := by decide
    exact .inr (named path (mem_feeding feeds) (name, connection) (Network.mem_inputs_iff.2 connected))
  shaped path feeds entry found plug isPlug value given := by
    obtain ⟨other, same, shaped⟩ := definition_feeding (mem_feeding feeds)
    cases found.symm.trans same
    simpa [given] using shaped plug isPlug

/-- A run without definition files and search paths. -/
def context : BakeContext where
  library := DefinitionLibrary.empty
  resolver := .below none
  nativeExtension := "tex"
  plugin := "rtx.so"

/-- A compiler that makes no shader. -/
def compile : Compiler Unit := fun _ _ state => (⟨none, []⟩, state)

/-- Shaders are generated for the constant and for the image. -/
theorem generates_both :
    (∀ source ∈ ["/M/NG/c", "/M/NG/i"], ∃ text,
      Shader.generate (routedDocument context Registry.bundled network "/M/t").document
        context.library.searchPaths (Conversion.shaderNameFor source) (NodePath.leaf source)
        (NodePath.parent source) = .ok text) ∧
    (network.bakeMaterial context compile Registry.bundled () "").report.generated = 2 := by
  -- The network meets the conditions of the general statement, which then counts two sources.
  have bound : network.terminal? Network.surfaceTerminal = some ⟨"/M/t", "out"⟩ := by decide
  have typed : network.typeOf "/M/t" = Surface.standard.nodeType := by decide
  have reads : network.sources "/M/t" = ["/M/NG/c", "/M/NG/i"] := by decide
  obtain ⟨generates, counts⟩ := Network.bakeMaterial_generates context compile () "" network bound typed
    wellFormed
  refine ⟨fun source listed => ?_, ?_⟩
  · exact generates source (Network.mem_sources_iff.1 (reads ▸ listed))
  -- Neither input is a name that the adapters have for the other.
  · have stays : ∀ input ∈ network.inputNames "/M/t", ∀ converted,
        ¬network.Displaced "/M/t" converted input := by
      rintro input inside converted ⟨earlier, connection, connected, before, same, _⟩
      have apart : ∀ input ∈ network.inputNames "/M/t", ∀ earlier ∈ network.inputNames "/M/t",
          adapterName earlier = input → earlier = input := by decide
      rw [apart input inside earlier (Network.mem_inputNames_iff.2 ⟨connection, connected⟩) same] at before
      exact String.lt_irrefl _ before
    rw [counts fun source read => ?_, reads]
    · rfl
    · obtain ⟨_, input, connection, connected, same⟩ := read
      exact ⟨input, connection, connected, same,
        stays input (Network.mem_inputNames_iff.2 ⟨connection, connected⟩) _⟩

end Bake.Textured

end ShadeBake
