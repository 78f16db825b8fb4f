import ShadeBake.Proofs.Document.Build
import ShadeBake.Proofs.Network.WellFormed

/-! The document for a well-formed material is sound, as it is built and once its textures are routed. -/

namespace ShadeBake

namespace Document

/-! ### The inputs of built nodes -/

/-- An input holds a parameter of a network node when it is of the type that is declared for that or inferred
from it, with the literal for it in that type, and reads no output by name. -/
structure Input.HoldsParameter (description : NodeDescription) (network : Network) (path : String)
    (input : Input) : Prop where
  unnamed : input.output = none
  given : ∃ value, network.parameter? path input.name = some value ∧
    input.type = (description.inputTypes.get? input.name).getD value.inferredType ∧
      input.value = Literal.ofParameter? input.type value

/-- An input of the document node for a network node is that for a connection or holds a parameter. -/
theorem of_mem_inputs_nodeFor {vocabulary : Vocabulary} {network : Network} {path : String} {input : Input}
    (member : input ∈ (nodeFor vocabulary network path).inputs) :
    (∃ name connection, network.input? path name = some connection ∧
      input = connectedInput (vocabulary.describe (network.typeOf path)) name connection) ∨
      input.HoldsParameter (vocabulary.describe (network.typeOf path)) network path := by
  -- Sorting keeps the inputs.
  rw [nodeFor_eq_sortInputs] at member
  rcases List.mem_append.1 (List.mem_mergeSort.1 member) with free | connected
  · obtain ⟨name, _, made⟩ := List.mem_filterMap.1 (List.mem_filter.1 free).1
    obtain ⟨value, literal, given, converts, rfl⟩ := literalInput?_eq_some_iff.1 made
    exact .inr ⟨rfl, value, given, rfl, converts.symm⟩
  · obtain ⟨name, connection, inside, _, same⟩ := mem_connectedInputs.1 connected
    exact .inl ⟨name, connection, Network.mem_inputs_iff.1 inside, same⟩

end Document

/-! ### Built documents -/

namespace DocumentBuilder

/-- From all inputs of a terminal, those nodes are reached that feed it. -/
theorem reached_iff_feeds {network : Network} {terminal path : String} :
    Reached network terminal (network.inputNames terminal) path ↔ network.Feeds terminal path := by
  -- What is reached is drawn on from the source of one of the inputs, which is a first step.
  unfold Network.Feeds
  rw [Relation.TransGen.head'_iff]
  constructor
  · rintro ⟨name, _, connection, connected, present, draws⟩
    exact ⟨connection.source, ⟨present, name, connection, connected, rfl⟩, draws⟩
  · rintro ⟨source, ⟨present, name, connection, connected, rfl⟩, draws⟩
    exact ⟨name, Network.mem_inputNames_iff.2 ⟨connection, connected⟩, connection, connected, present, draws⟩

end DocumentBuilder

namespace Vocabulary

/-- The vocabulary of the bundled definitions, with a library for other types. -/
abbrev bundled (library : DefinitionLibrary) : Vocabulary := ⟨Registry.bundled, library⟩

/-- A bundled definition describes its type. -/
theorem describe_bundled {library : DefinitionLibrary} {type : String} {entry : ShaderEntry}
    (found : Registry.bundled.definition? type = some entry) :
    (bundled library).describe type = .ofEntry entry := by
  -- The bundled registry comes before the definition files.
  simp only [describe, NodeDescription.of, found]

end Vocabulary

namespace Network.WellFormed

open Document (Graph Node nodeFor graphKey)
open Vocabulary (bundled describe_bundled)

variable {network : Network} {terminal : String} (wellFormed : network.WellFormed terminal)
  (library : DefinitionLibrary)

include wellFormed

/-- The document node for a node that feeds the terminal is callable. -/
theorem callable {path : String} (feeds : network.Feeds terminal path) :
    (nodeFor (bundled library) network path).Callable := by
  -- The node is described by a regular bundled entry, and each of its inputs suits that.
  obtain ⟨entry, found, regular⟩ := wellFormed.exists_entry feeds
  have described : (bundled library).describe (network.typeOf path) = .ofEntry entry := describe_bundled found
  have category : (nodeFor (bundled library) network path).category = entry.family := by
    rw [Document.category_nodeFor, described]
    rfl
  refine regular.callable category (by rw [Document.signature_nodeFor, described]) (fun input member => ?_)
    fun input member plug isPlug named => ?_
  · rcases Document.of_mem_inputs_nodeFor member with ⟨name, connection, connected, rfl⟩ | holds
    · have default := wellFormed.outputs path feeds name connection connected
      simp [Document.connectedInput, default]
    · exact holds.unnamed
  · have declared := regular.get?_inputTypes isPlug
    rcases Document.of_mem_inputs_nodeFor member with ⟨name, connection, connected, rfl⟩ | holds
    -- An input that reads a node is of the declared type and has no literal.
    · cases named
      simp [Document.connectedInput, described, NodeDescription.inputType, declared]
    · obtain ⟨value, given, type, literal⟩ := holds.given
      rw [described, named, declared, Option.getD_some] at type
      rw [type] at literal ⊢
      have shaped := wellFormed.shaped path feeds entry found plug isPlug value (named ▸ given)
      exact ⟨rfl, fun made isLiteral => Literal.fits_of_ofParameter? shaped (literal.symm.trans isLiteral)⟩

open Classical in
/-- The rank of a name among some paths counts those that feed the path of that last component. -/
noncomputable def rank (network : Network) (paths : List String) (name : String) : Nat :=
  (paths.filter fun source => ∃ path ∈ paths, NodePath.leaf path = name ∧ network.Feeds path source).length

open Classical in
/-- Among all that feeds the terminal, what a node reads is of a lower rank. -/
theorem rank_lt {paths : List String} (listed : ∀ path, path ∈ paths ↔ network.Feeds terminal path)
    {path source : String} (feeds : network.Feeds terminal path) (reads : network.Reads path source) :
    rank network paths (NodePath.leaf source) < rank network paths (NodePath.leaf path) := by
  have further : network.Feeds terminal source := feeds.tail reads
  refine length_filter_lt (a := source) (fun other _ strong => ?_) ((listed source).2 further) ?_ ?_
  -- What feeds the source feeds the node through it.
  · obtain ⟨reader, inside, named, draws⟩ := of_decide_eq_true strong
    cases wellFormed.leaf_inj ((listed reader).1 inside) further named
    exact decide_eq_true ⟨path, (listed path).2 feeds, rfl, .head reads draws⟩
  · exact decide_eq_true ⟨path, (listed path).2 feeds, rfl, .single reads⟩
  -- The source does not feed itself.
  · refine decide_eq_false ?_
    rintro ⟨reader, inside, named, draws⟩
    cases wellFormed.leaf_inj ((listed reader).1 inside) further named
    exact wellFormed.acyclic source further draws

/-- A graph with the nodes of one key is sound. -/
theorem sound_of_group {paths : List String} {material key : String} {graph : Graph}
    (listed : ∀ path, path ∈ paths ↔ network.Feeds terminal path)
    (grouped : graph.nodes = BuiltDocument.group (bundled library) network material paths key) :
    graph.Sound := by
  -- A graph holds the nodes of one key, and all that feeds the terminal has the same key.
  have held : ∀ node ∈ graph.nodes, ∃ path, network.Feeds terminal path ∧ graphKey material path = key ∧
      nodeFor (bundled library) network path = node := by
    intro node inside
    obtain ⟨path, isPath, same⟩ := BuiltDocument.mem_group.1 (grouped ▸ inside)
    exact ⟨path, (listed path).1 isPath, same⟩
  refine ⟨fun node inside => ?_, fun node inside source read => ?_, rank network paths,
    fun node inside source read => ?_⟩
  · obtain ⟨path, feeds, _, rfl⟩ := held node inside
    exact wellFormed.callable library feeds
  · obtain ⟨path, feeds, keyed, rfl⟩ := held node inside
    obtain ⟨other, reads, rfl⟩ := (Document.mem_sources_nodeFor_iff _ network path).1 read
    have further : network.Feeds terminal other := feeds.tail reads
    -- All is in one scope, so the source has the same key.
    have same : graphKey material other = key := by
      rw [← keyed, graphKey, graphKey, wellFormed.parent_eq further feeds]
    have there : nodeFor (bundled library) network other ∈ graph.nodes :=
      grouped ▸ BuiltDocument.mem_group.2 ⟨other, (listed other).2 further, same, rfl⟩
    exact List.mem_map.2 ⟨_, there, Document.name_nodeFor ..⟩
  · obtain ⟨path, feeds, _, rfl⟩ := held node inside
    obtain ⟨other, reads, rfl⟩ := (Document.mem_sources_nodeFor_iff _ network path).1 read
    rw [Document.name_nodeFor]
    exact wellFormed.rank_lt listed feeds reads

/-- All graphs of the built document are sound and have nodes for what feeds the terminal only, and each node
that feeds it is in one of them. -/
theorem sound_build :
    let built := Document.build (bundled library) network terminal (network.inputNames terminal)
    (∀ graph ∈ built.document.graphs, graph.Sound ∧ ∀ node ∈ graph.nodes, ∃ path,
      network.Feeds terminal path ∧ nodeFor (bundled library) network path = node) ∧
      ∀ path, network.Feeds terminal path →
        ∃ graph ∈ built.document.graphs, NodePath.leaf path ∈ graph.nodes.map (·.name) := by
  -- The graphs are groups of what is reached, and that is what feeds the terminal.
  intro built
  obtain ⟨paths, keys, _, _, reached, keyed, graphs⟩ :=
    Document.build_graphs (bundled library) network terminal (network.inputNames terminal)
  have listed : ∀ path, path ∈ paths ↔ network.Feeds terminal path := fun path =>
    (reached path).trans DocumentBuilder.reached_iff_feeds
  refine ⟨fun graph there => ?_, fun path feeds => ?_⟩
  · obtain ⟨key, _, grouped⟩ := List.mem_map.1 (graphs ▸ List.mem_map_of_mem there)
    refine ⟨wellFormed.sound_of_group library listed grouped.symm, fun node inside => ?_⟩
    obtain ⟨path, isPath, _, same⟩ := BuiltDocument.mem_group.1 (grouped ▸ inside)
    exact ⟨path, (listed path).1 isPath, same⟩
  -- What feeds the terminal is among the paths, and the graph of its key lists it.
  · have isPath := (listed path).2 feeds
    obtain ⟨graph, there, grouped⟩ := List.mem_map.1 (graphs ▸ List.mem_map_of_mem (keyed path isPath))
    have inside : nodeFor (bundled library) network path ∈ graph.nodes :=
      grouped ▸ BuiltDocument.mem_group.2 ⟨path, isPath, rfl, rfl⟩
    exact ⟨graph, there, List.mem_map.2 ⟨_, inside, Document.name_nodeFor ..⟩⟩

/-- Each node for what feeds the terminal awaits that a texture which feeds it is routed. -/
theorem awaits {path texture : String} (feeds : network.Feeds terminal path)
    (further : network.Feeds terminal texture)
    (isTexture : ((bundled library).describe (network.typeOf texture)).isTexture = true) :
    Texture.Awaits (NodePath.leaf texture) (nodeFor (bundled library) network path) := by
  -- Only the texture itself has its leaf name, and what comes in for it has other names.
  have apart := wellFormed.apart texture path further feeds
  refine ⟨fun named => ?_, ?_, ?_⟩
  · rw [Document.name_nodeFor] at named
    cases wellFormed.leaf_inj feeds further named
    obtain ⟨entry, found, regular⟩ := wellFormed.exists_entry feeds
    have described : (bundled library).describe (network.typeOf path) = .ofEntry entry := describe_bundled found
    rw [described] at isTexture
    exact regular.textured (Registry.hasTexturePlugs_bundled found isTexture)
      (by rw [Document.signature_nodeFor, described])
  · exact (Document.name_nodeFor ..).symm ▸ apart.1
  · exact (Document.name_nodeFor ..).symm ▸ apart.2

end Network.WellFormed

end ShadeBake
