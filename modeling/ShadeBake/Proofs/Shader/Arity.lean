import Mathlib
import ShadeBake.Proofs.Document.Build
import ShadeBake.Proofs.Document.Routing
import ShadeBake.Proofs.Shader.Calls
import ShadeBake.Proofs.Shader.Order

/-! How many arguments calls pass: as many as the definition of the node's type declares plugs, and so calls
of one function agree unless it is that of two types, or of added nodes that the registry does not define. -/

namespace ShadeBake

open Document (Graph Node Signature nodeFor)
open DocumentBuilder (Reached)

namespace Document

/-- The number of plugs that a call for a node passes: the inputs and the outputs that are declared. -/
def Signature.arity (signature : Signature) : Nat :=
  -- A node without declared outputs has one of its own.
  signature.inputs.length + max 1 signature.outputs.length

/-- A node with a signature has as many outputs as that declares, or one. -/
theorem Node.length_outputPlugs {node : Node} {signature : Signature}
    (declared : node.signature = some signature) :
    node.outputPlugs.length = max 1 signature.outputs.length := by
  -- A signature without outputs has the default one.
  simp only [Node.outputPlugs, declared]
  split
  · rename_i none
    simp [none]
  · rename_i some
    have positive := List.length_pos_of_ne_nil some
    omega

end Document

namespace Call

/-- The number of arguments in the text of a call, where the results come last. -/
def arity (call : Call) : Nat :=
  call.passed.length + call.results.length

end Call

/-- A call for a node with a signature passes as many arguments as that declares. -/
theorem Shader.Serves.arity_eq {options : EmitOptions} {graph : Graph} {node : Node} {call : Call}
    {signature : Signature} (serves : Serves options graph node call)
    (declared : node.signature = some signature) : call.arity = signature.arity := by
  have passed := serves.passed
  simp only [arguments, declared] at passed
  -- There is one argument for each declared input.
  have inputs := (forall₂_of_mapM passed).length_eq
  simp only [Call.arity, Signature.arity, serves.results, List.length_map,
    Node.length_outputPlugs declared, inputs]

namespace Vocabulary

variable (vocabulary : Vocabulary)

/-- A node of a type, with neither a name nor inputs. -/
def blankNode (type : String) : Node where
  name := ""
  category := (vocabulary.describe type).category
  type := (vocabulary.describe type).type
  definition := Document.definitionOf type
  signature := (vocabulary.describe type).signature

/-- The function that computes the nodes of a type. -/
def function (type : String) : String :=
  (vocabulary.blankNode type).functionName

/-- A type is named as definitions are when more than the mark of definitions is in its name. -/
def IsDefinitionName (type : String) : Prop :=
  ∃ first rest, type.toList = 'N' :: 'D' :: '_' :: first :: rest

variable {vocabulary}

/-- The function for a type that is named as definitions are is the name behind the mark. -/
theorem function_of_named {type : String} {first : Char} {rest : List Char}
    (named : type.toList = 'N' :: 'D' :: '_' :: first :: rest) :
    vocabulary.function type = String.ofList (first :: rest) := by
  -- The definition has a name behind the prefix, which is that of the function.
  have nonempty : type ≠ "" := by
    rintro rfl
    simp at named
  simp [function, blankNode, Node.functionName, Document.definitionOf, nonempty, named]

/-- Two types that are named as definitions are have functions of their own. -/
theorem function_inj {type other : String} (named : IsDefinitionName type)
    (named' : IsDefinitionName other) (same : vocabulary.function type = vocabulary.function other) :
    type = other := by
  obtain ⟨first, rest, chars⟩ := named
  obtain ⟨first', rest', chars'⟩ := named'
  rw [function_of_named chars, function_of_named chars', String.ofList_inj] at same
  -- Behind the same mark stand the same characters.
  exact String.toList_inj.1 (by rw [chars, chars', same])

/-- A type that the registry defines has the signature that the registry alone gives. -/
theorem signature_of_registry {type : String} {signature : Signature}
    (declared : vocabulary.registry.signature? type = some signature) :
    (vocabulary.describe type).signature = some signature := by
  unfold Registry.signature? NodeDescription.of at declared
  unfold Vocabulary.describe NodeDescription.of
  cases found : vocabulary.registry.definition? type with
  | some entry => simpa [found] using declared
  -- The library without definitions describes nothing.
  | none => simp [found, DefinitionLibrary.empty, DefinitionLibrary.find?, NodeDescription.signature] at declared

/-- A function is ambiguous among some types when two of them that are not both named as definitions are have
it. -/
def Ambiguous (vocabulary : Vocabulary) (occurs : String → Prop) (function : String) : Prop :=
  ∃ type other, occurs type ∧ occurs other ∧ type ≠ other ∧ ¬(IsDefinitionName type ∧ IsDefinitionName other) ∧
    vocabulary.function type = function ∧ vocabulary.function other = function

/-- A function is undeclared when it is that of readers or remappers and the registry does not define these. -/
def Undeclared (vocabulary : Vocabulary) (function : String) : Prop :=
  ∃ type ∈ [Texture.reader, Texture.remapper],
    vocabulary.registry.signature? type = none ∧ vocabulary.function type = function

/-- Where the function and the plugs of a node come from: a type that occurs and is described, or, for readers
and remappers that the registry does not define, nowhere. -/
inductive Describes (vocabulary : Vocabulary) (occurs : String → Prop) (node : Node) : Prop
  /-- A node of an unknown type has no category. -/
  | unknown (blank : node.category = "")
  /-- A node of a described type declares the plugs of that type. -/
  | described {type : String} {signature : Signature} (there : occurs type)
    (function : node.functionName = vocabulary.function type) (declares : node.signature = some signature)
    (described : (vocabulary.describe type).signature = some signature)
  /-- An added node may declare nothing. -/
  | undeclared (function : vocabulary.Undeclared node.functionName)

/-- What is described by other inputs is described. -/
theorem Describes.withInputs {occurs : String → Prop} {node : Node} (inputs : List Document.Input)
    (describes : vocabulary.Describes occurs node) : vocabulary.Describes occurs { node with inputs } := by
  -- Neither the function nor the plugs depend on the inputs.
  cases describes with
  | unknown blank => exact .unknown blank
  | described there function declares described => exact .described there function declares described
  | undeclared function => exact .undeclared function

/-- The node for a network node is of the described type. -/
theorem describes_nodeFor (network : Network) (path : String) {occurs : String → Prop}
    (there : occurs (network.typeOf path)) : vocabulary.Describes occurs (nodeFor vocabulary network path) := by
  -- Inputs play no part in this, and the bare node is described or has no category.
  obtain ⟨_, inputs, _, _, _, made⟩ := Document.nodeFor_eq vocabulary network path
  rw [made]
  refine Describes.withInputs inputs ?_
  by_cases blank : (vocabulary.describe (network.typeOf path)).category = ""
  · exact .unknown blank
  · exact .described there rfl (if_neg blank) (if_neg blank)

/-- A node that is added for one of the two types has the plugs that the registry alone declares. -/
theorem describes_added {type : String} {occurs : String → Prop} (there : occurs type)
    (added : type ∈ [Texture.reader, Texture.remapper]) {node : Node}
    (definition : node.definition = some type) (declares : node.signature = vocabulary.registry.signature? type) :
    vocabulary.Describes occurs node := by
  -- Both types are named as definitions are, so the name alone decides on the function.
  have function : node.functionName = vocabulary.function type := by
    rcases List.mem_pair.1 added with rfl | rfl
    · simp [Node.functionName, definition, function, blankNode, Document.definitionOf, Texture.reader]
    · simp [Node.functionName, definition, function, blankNode, Document.definitionOf, Texture.remapper]
  cases known : vocabulary.registry.signature? type with
  | none => exact .undeclared ⟨type, added, known, function.symm⟩
  | some signature => exact .described there function (declares.trans known) (signature_of_registry known)

end Vocabulary

/-- The types that occur in a routed document: those of the nodes that feed the terminal, and those of the
nodes that routing adds. -/
def Document.Occurs (network : Network) (terminal : String) (names : List String) (type : String) : Prop :=
  type ∈ [Texture.reader, Texture.remapper] ∨
    ∃ path, Reached network terminal names path ∧ network.typeOf path = type

/-- Every node in the graphs of a document that was built and routed is described by a type that occurs. -/
theorem Document.describes_routeTextures (context : TextureContext) (library : DefinitionLibrary)
    (network : Network) (terminal : String) (names : List String) (paths : NameSet) :
    let vocabulary : Vocabulary := ⟨context.registry, library⟩
    let built := build vocabulary network terminal names
    ∀ graph ∈ (built.document.routeTextures context network paths).document.graphs, ∀ node ∈ graph.nodes,
      vocabulary.Describes (Occurs network terminal names) node := by
  intro vocabulary built
  refine forall_routeTextures (fun node inputs describes => describes.withInputs inputs) network paths
    (fun name primvar => ?_) (fun name source => ?_) fun graph there node inside => ?_
  -- The two added nodes are described by the registry alone.
  · exact Vocabulary.describes_added (.inl List.mem_cons_self) List.mem_cons_self rfl rfl
  · have added : Texture.remapper ∈ [Texture.reader, Texture.remapper] := by simp
    exact Vocabulary.describes_added (.inl added) added rfl rfl
  -- The nodes that are built are those for the paths that are reached.
  · obtain ⟨visited, keys, _, _, reached, _, graphs⟩ := build_graphs vocabulary network terminal names
    have listed : graph.nodes ∈ built.document.graphs.map (·.nodes) := List.mem_map_of_mem there
    rw [graphs] at listed
    obtain ⟨key, _, same⟩ := List.mem_map.1 listed
    rw [← same] at inside
    obtain ⟨path, member, rfl⟩ := List.mem_map.1 inside
    have reaches := (reached path).1 (List.mem_filter.1 member).1
    exact Vocabulary.describes_nodeFor network path (.inr ⟨path, reaches, rfl⟩)

/-- A call of a program that is emitted from a routed document has the function and the number of arguments of
a type that occurs, or an undeclared function. -/
theorem Shader.exists_type_of_call {vocabulary : Vocabulary} {occurs : String → Prop} {graph : Graph}
    {root : Node} (describes : ∀ node ∈ graph.nodes, vocabulary.Describes occurs node)
    (inside : root ∈ graph.nodes) {options : EmitOptions} {name : String} {program : Program}
    (emits : emit options name graph root = .ok program) {call : Call} (calls : call ∈ program.calls) :
    vocabulary.Undeclared call.function ∨
      ∃ type signature, occurs type ∧ call.function = vocabulary.function type ∧
        (vocabulary.describe type).signature = some signature ∧ call.arity = signature.arity := by
  obtain ⟨order, evaluates, serves⟩ := emit_calls emits
  obtain ⟨position, bound, rfl⟩ := List.getElem_of_mem calls
  have listed := serves.length_eq.symm ▸ bound
  have serves := List.forall₂_iff_get.1 serves |>.2 position listed bound
  have node : order[position] ∈ graph.nodes := by
    rcases Graph.mem_of_evaluationOrder evaluates (List.getElem_mem listed) with there | same
    · exact there
    · exact same ▸ inside
  -- The node that the call serves tells.
  cases describes _ node with
  | unknown blank => exact absurd blank serves.defined
  | described there function declares described =>
    exact .inr ⟨_, _, there, serves.function.trans function, described, serves.arity_eq declares⟩
  | undeclared function => exact .inl (serves.function ▸ function)

/-- Two calls of one function, in a program emitted from any document that was built and had its textures
routed, pass the same number of arguments, unless the function is that of readers or remappers that the
registry does not define or is that of two types which are not both named as definitions are. -/
theorem Shader.calls_agree (context : TextureContext) (library : DefinitionLibrary) (network : Network)
    (terminal : String) (names : List String) (paths : NameSet) {graph : Graph}
    (there : graph ∈ ((Document.build ⟨context.registry, library⟩ network terminal names).document.routeTextures
      context network paths).document.graphs)
    {root : Node} (inside : root ∈ graph.nodes) {options : EmitOptions} {name : String} {program : Program}
    (emits : emit options name graph root = .ok program) :
    ∀ call ∈ program.calls, ∀ other ∈ program.calls, call.function = other.function →
      call.arity = other.arity ∨ Vocabulary.Undeclared ⟨context.registry, library⟩ call.function ∨
        Vocabulary.Ambiguous ⟨context.registry, library⟩ (Document.Occurs network terminal names)
          call.function := by
  intro call calls other calls' same
  have describes := Document.describes_routeTextures context library network terminal names paths graph there
  rcases exists_type_of_call describes inside emits calls with undeclared | declared
  · exact .inr (.inl undeclared)
  rcases exists_type_of_call describes inside emits calls' with undeclared | declared'
  · exact .inr (.inl (same ▸ undeclared))
  -- Each call is for a node of some type that occurs.
  obtain ⟨type, signature, occurs, function, described, arity⟩ := declared
  obtain ⟨type', signature', occurs', function', described', arity'⟩ := declared'
  -- Calls for nodes of one type agree, and two types need a reason to share the function.
  by_cases one : type = type'
  · subst one
    cases described.symm.trans described'
    exact .inl (arity.trans arity'.symm)
  · refine .inr (.inr ⟨type, type', occurs, occurs', one, fun named => ?_, function.symm, ?_⟩)
    · exact one (Vocabulary.function_inj named.1 named.2 (function.symm.trans (same.trans function')))
    · exact function'.symm.trans same.symm

namespace Shader.Borrowed

/-- A material whose base is an image without coordinates, with a default that a reader of coordinates gives. -/
def network : Network where
  materialPath := "/M"
  nodes := Dict.ofList [
    ("/M/g/a", ⟨"ND_image_vector2", Dict.ofList [("file", .asset ⟨"w.png", none⟩)],
      Dict.ofList [("default", ⟨"/M/g/st", "out"⟩)]⟩),
    ("/M/g/st", ⟨"ND_geompropvalue_vector2", Dict.empty, Dict.empty⟩),
    ("/M/t", ⟨"surface", Dict.empty, Dict.ofList [("base", ⟨"/M/g/a", "out"⟩)]⟩)]
  terminals := Dict.empty

/-- A registry that defines the image and not the reader. -/
def context : TextureContext where
  registry := { entries := [
    { identifier := "ND_image_vector2", sourceType := "mtlx", family := "image", role := some "texture"
      inputs := [⟨"file", "filename", none⟩, ⟨"default", "vector2", none⟩, ⟨"texcoord", "vector2", none⟩]
      outputs := [⟨"out", "vector2", none⟩]
      metadata := Dict.empty, assetPath := none }] }
  resolver := Resolver.below none
  nativeExtension := "tex"
  plugin := "plugin"

/-- A library that defines the reader with two inputs. -/
def library : DefinitionLibrary where
  searchPaths := []
  definitions := Dict.ofList [("ND_geompropvalue_vector2", {
    name := "ND_geompropvalue_vector2", category := "geompropvalue", type := "vector2"
    inputs := [("geomprop", "string"), ("default", "vector2")]
    outputs := [("out", "vector2")]
    inputValues := Dict.empty })]

/-- The document of the material. -/
def document : Document :=
  (Document.build ⟨context.registry, library⟩ network "/M/t" ["base"]).document

/-- The image before it is routed. -/
def image : Node where
  name := "a"
  category := "image"
  type := "vector2"
  definition := some "ND_image_vector2"
  inputs := [
    { name := "file", type := "filename", value := some (.string "w.png") },
    { name := "default", type := "vector2", node := some "st" }]
  signature := some ⟨[⟨"file", "filename", none⟩, ⟨"default", "vector2", none⟩, ⟨"texcoord", "vector2", none⟩],
    [⟨"out", "vector2", none⟩]⟩

/-- The reader that the library defines. -/
def authored : Node where
  name := "st"
  category := "geompropvalue"
  type := "vector2"
  definition := some "ND_geompropvalue_vector2"
  signature := some ⟨[⟨"geomprop", "string", none⟩, ⟨"default", "vector2", none⟩], [⟨"out", "vector2", none⟩]⟩

/-- The document has one graph. -/
theorem graphs_document :
    document.graphs = [⟨"g", [image, authored], [⟨"base_output", "vector2", "a", some "out"⟩]⟩] := by
  -- What is visited is computed first, and the builder then runs on a list.
  have visits : network.visit [] ["/M/g/a"] = ["/M/g/a", "/M/g/st"] := by cbv
  have base : network.input? "/M/t" "base" = some ⟨"/M/g/a", "out"⟩ := by decide
  have there : network.hasNode "/M/g/a" = true := by decide
  simp only [document, Document.build, List.foldl_cons, List.foldl_nil, DocumentBuilder.addConnection, base, there,
    if_true, visits, List.length_nil, List.drop_zero, BuiltDocument.addNode]
  cbv

/-- The image once it is routed to a text, with coordinates from an added node. -/
def textured (text : String) : Node :=
  { image with inputs := [
      { name := "file", type := "filename", value := some (.string text) },
      { name := "default", type := "vector2", node := some "st" },
      { name := "texcoord", type := "vector2", node := some "a__texcoord" }] }

/-- The graph once the image is routed to a text. -/
def graph (text : String) : Graph where
  name := "g"
  nodes := [textured text, authored, Texture.readerNode context "a" "st"]
  outputs := [⟨"base_output", "vector2", "a", some "out"⟩]

/-- The paths of the textures of the material. -/
def textures : NameSet :=
  NameSet.add Dict.empty "/M/g/a"

/-- Routing makes that graph. -/
theorem graphs_routed :
    ∃ text, (document.routeTextures context network textures).document.graphs = [graph text] := by
  -- The look-ups of the one step are computed, and the step is then taken for any text of the file.
  have base : network.hasNode "/M/g/a" = true := by decide
  have file : network.parameter? "/M/g/a" "file" = some (.asset ⟨"w.png", none⟩) := by cbv
  have native : Texture.isNative context (Texture.resolved context ⟨"w.png", none⟩) = false := by cbv
  have found : document.findGraph? (NodePath.parent "/M/g/a") "a" = some 0 := by
    unfold Document.findGraph?
    rw [graphs_document]
    cbv
  have routes (text : String) : (Texture.withCoordinates context "/M/g/a" "ND_image_vector2" "a"
      (Texture.setFile ⟨"g", [image, authored], [⟨"base_output", "vector2", "a", some "out"⟩]⟩ "a" text)).1 =
        graph text := by
    cbv
  have keys : textures.keys = ["/M/g/a"] := by cbv
  have leaf : NodePath.leaf "/M/g/a" = "a" := by cbv
  have type : network.typeOf "/M/g/a" = "ND_image_vector2" := by cbv
  -- The text of the file is the locator, which is left as it is.
  refine ⟨Texture.pluginLocator context.plugin (Texture.resolved context ⟨"w.png", none⟩)
    (WrapMode.ofNode network "/M/g/a").1.1 (WrapMode.ofNode network "/M/g/a").1.2, ?_⟩
  simp only [Document.routeTextures, keys, List.foldl_cons, List.foldl_nil, RoutedDocument.routePath, base, if_true,
    file, found, graphs_document, List.getElem?_cons_zero, Texture.routeNode, native, Bool.false_eq_true, if_false,
    Document.modifyGraph, List.modify_zero_cons, type, leaf, routes]

/-- All types that occur are named as definitions are. -/
theorem isDefinitionName_of_occurs {type : String} (occurs : Document.Occurs network "/M/t" ["base"] type) :
    Vocabulary.IsDefinitionName type := by
  have visits : DocumentBuilder.visited network "/M/t" [] ["base"] = ["/M/g/a", "/M/g/st"] := by cbv
  rcases occurs with added | ⟨path, reached, rfl⟩
  · rcases List.mem_pair.1 added with rfl | rfl
    · exact ⟨_, _, rfl⟩
    · exact ⟨_, _, rfl⟩
  -- What is reached are the image and the reader that feeds it.
  · have listed := ((Document.build_holds ⟨context.registry, library⟩ network "/M/t" ["base"]).2.2 path).2 reached
    rw [visits] at listed
    rcases List.mem_pair.1 listed with rfl | rfl
    · exact ⟨_, _, rfl⟩
    · exact ⟨_, _, rfl⟩

/-- The program of the base calls the function of readers with three arguments and with two, and the registry
is why: it does not define the reader that routing adds. -/
theorem reader_undeclared :
    ∃ graph ∈ (document.routeTextures context network textures).document.graphs, ∃ root ∈ graph.nodes,
      ∃ program, emit {} "aShader" graph root = .ok program ∧
        ∃ call ∈ program.calls, ∃ other ∈ program.calls,
          call.function = "geompropvalue_vector2" ∧ other.function = "geompropvalue_vector2" ∧
          call.arity = 3 ∧ other.arity = 2 ∧ Vocabulary.Undeclared ⟨context.registry, library⟩ call.function := by
  -- The two calls are found by evaluation, and the general statement names what else could be.
  obtain ⟨text, graphs⟩ := graphs_routed
  have there : graph text ∈ (document.routeTextures context network textures).document.graphs :=
    graphs ▸ List.mem_cons_self
  have root : textured text ∈ (graph text).nodes := List.mem_cons_self
  have emitted : (emit {} "aShader" (graph text) (textured text)).toOption.map
      (·.calls.map fun call => (call.function, call.arity)) =
        some [("geompropvalue_vector2", 3), ("geompropvalue_vector2", 2), ("image_vector2", 4)] := by
    cbv
  obtain ⟨program, emits, calls⟩ := Option.map_eq_some_iff.1 emitted
  replace emits : emit {} "aShader" (graph text) (textured text) = .ok program := by
    obtain ⟨made, works⟩ := ok_of_isSome (Option.isSome_of_eq_some emits)
    rw [works] at emits
    exact Option.some.inj emits ▸ works
  obtain ⟨call, isCall, first⟩ := List.mem_map.1 (calls ▸ List.mem_cons_self :
    ("geompropvalue_vector2", 3) ∈ program.calls.map fun call => (call.function, call.arity))
  obtain ⟨other, isOther, second⟩ := List.mem_map.1 (calls ▸ List.mem_cons_of_mem _ List.mem_cons_self :
    ("geompropvalue_vector2", 2) ∈ program.calls.map fun call => (call.function, call.arity))
  obtain ⟨function, arity⟩ := Prod.mk.inj first
  obtain ⟨function', arity'⟩ := Prod.mk.inj second
  refine ⟨graph text, there, textured text, root, program, emits, call, isCall, other, isOther, function, function',
    arity, arity', ?_⟩
  rcases calls_agree context library network "/M/t" ["base"] textures there root emits call isCall other isOther
    (function.trans function'.symm) with agree | undeclared | ⟨_, _, occurs, occurs', _, unnamed, _⟩
  · omega
  · exact undeclared
  -- No two types share a function.
  · exact absurd ⟨isDefinitionName_of_occurs occurs, isDefinitionName_of_occurs occurs'⟩ unnamed

end Shader.Borrowed

end ShadeBake
