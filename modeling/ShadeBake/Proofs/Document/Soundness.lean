import ShadeBake.Proofs.Document.Node
import ShadeBake.Proofs.Document.Routing
import ShadeBake.Proofs.Shader.Totality

/-! Routing textures keeps graphs sound: the nodes that it adds stand between a texture node and what that read
before, so that no circle is closed. -/

namespace ShadeBake

namespace Document

/-- The declared plugs of a texture: its file is a file name, and its coordinates are there and are planar. -/
structure Signature.Textured (signature : Signature) : Prop where
  file : ∀ plug ∈ signature.inputs, plug.name = "file" → plug.type = "filename"
  coordinates : ∃ plug ∈ signature.inputs, plug.name = "texcoord"
  planar : ∀ plug ∈ signature.inputs, plug.name = "texcoord" → plug.type = "vector2"

/-- A node is textured when it declares the plugs of a texture. -/
def Node.Textured (node : Node) : Prop :=
  ∃ signature, node.signature = some signature ∧ signature.Textured

namespace Node

variable {node : Node} {signature : Signature}

/-- A callable node that declares a signature stays callable with any inputs that the signature accepts. -/
theorem Callable.withInputs (callable : node.Callable) (declared : node.signature = some signature)
    {inputs : List Input} (accepted : ∀ input ∈ inputs, signature.Accepts input) :
    { node with inputs }.Callable := by
  -- All but the inputs is as before, and the inputs are accepted one by one.
  obtain ⟨other, same, usable, _⟩ := callable.declared
  cases declared.symm.trans same
  exact ⟨callable.category, ⟨signature, declared, usable, accepted⟩, callable.outputs⟩

/-- The signature of a callable node accepts its inputs. -/
theorem Callable.accepts (callable : node.Callable) (declared : node.signature = some signature) :
    ∀ input ∈ node.inputs, signature.Accepts input := by
  -- A node has one signature.
  obtain ⟨other, same, _, accepts⟩ := callable.declared
  cases declared.symm.trans same
  exact accepts

/-- An input after a literal was set was there before, or is one of that name with the literal, which reads
what one of that name read, if there was one. -/
theorem mem_inputs_setValue {name type : String} {value : Literal} {input : Input}
    (member : input ∈ (node.setValue name value type).inputs) :
    input ∈ node.inputs ∨
      ∃ old : Input, (old ∈ node.inputs ∨ old.node = none ∧ old.output = none) ∧
        input = { old with name := name, type, value := some value } := by
  unfold setValue at member
  split at member
  -- An input that is there keeps its place and what it reads.
  · rcases mem_modifyFirst member with there | ⟨old, inside, named, rfl⟩
    · exact .inl there
    · cases of_decide_eq_true named
      exact .inr ⟨old, .inl inside, rfl⟩
  · rcases List.mem_append.1 member with kept | new
    · exact .inl (List.mem_filter.1 kept).1
    · exact .inr ⟨{ name, type }, .inr ⟨rfl, rfl⟩, List.mem_singleton.1 new⟩

/-- Setting a literal lets a node read nothing new. -/
theorem sources_setValue {name type source : String} {value : Literal}
    (read : source ∈ (node.setValue name value type).sources) : source ∈ node.sources := by
  -- An input that is given a value keeps what it reads, and a new one reads nothing.
  obtain ⟨input, member, reads⟩ := List.mem_filterMap.1 read
  rcases mem_inputs_setValue member with there | ⟨old, inside | ⟨unread, _⟩, rfl⟩
  · exact List.mem_filterMap.2 ⟨input, there, reads⟩
  · exact List.mem_filterMap.2 ⟨old, inside, reads⟩
  · simp [unread] at reads

/-- A callable node stays callable once the file of its texture is set. -/
theorem Callable.setFile (callable : node.Callable) (textured : node.Textured) (text : String) :
    (node.setValue "file" (.string text) "filename").Callable := by
  obtain ⟨signature, declared, textured⟩ := textured
  obtain ⟨inputs, changed⟩ := node.setValue_eq "file" (.string text) "filename"
  have listed : (node.setValue "file" (.string text) "filename").inputs = inputs := by rw [changed]
  rw [changed]
  refine callable.withInputs declared fun input member => ?_
  rcases mem_inputs_setValue (listed.symm ▸ member) with there | ⟨old, was, rfl⟩
  · exact callable.accepts declared input there
  -- A text is a literal of the type of files.
  · refine ⟨was.elim (fun inside => (callable.accepts declared old inside).1) And.right,
      fun plug inside named => ?_⟩
    have type := textured.file plug inside named.symm
    refine ⟨by rw [type], fun value isText => ?_⟩
    cases isText
    exact type ▸ ⟨.string, rfl, rfl⟩

/-- A callable texture node stays callable when coordinates are put in that some node gives. -/
theorem Callable.putCoordinates (callable : node.Callable) (textured : node.Textured) (source : String) :
    (node.putInput { name := "texcoord", type := "vector2", node := some source }).Callable := by
  -- The coordinates are planar, which is the type that a textured node declares for them.
  obtain ⟨signature, declared, textured⟩ := textured
  refine callable.withInputs declared fun input member => ?_
  rcases List.mem_append.1 member with kept | new
  · exact callable.accepts declared input (List.mem_filter.1 kept).1
  · cases List.mem_singleton.1 new
    exact ⟨rfl, fun plug inside named => ⟨by rw [textured.planar plug inside named.symm], by simp⟩⟩

/-- A callable node stays callable when its coordinates come from some node. -/
theorem Callable.modifyCoordinates (callable : node.Callable) (source : String) :
    (node.modifyInput "texcoord" fun input =>
      { input with node := some source, output := none, value := none }).Callable := by
  obtain ⟨signature, declared, _, accepts⟩ := callable.declared
  refine callable.withInputs declared fun input member => ?_
  rcases mem_modifyFirst member with there | ⟨old, inside, _, rfl⟩
  · exact accepts input there
  -- The type of the input stays, and it has no literal any more.
  · exact ⟨rfl, fun plug isPlug named => ⟨((accepts old inside).2 plug isPlug named).typed, by simp⟩⟩

/-- With coordinates put in, a node reads what it read and where these come from. -/
theorem sources_putInput {new : Input} {source : String} (read : source ∈ (node.putInput new).sources) :
    source ∈ node.sources ∨ new.node = some source := by
  -- An input that is kept is one of the old ones.
  obtain ⟨input, member, reads⟩ := List.mem_filterMap.1 read
  rcases List.mem_append.1 member with kept | last
  · exact .inl (List.mem_filterMap.2 ⟨input, (List.mem_filter.1 kept).1, reads⟩)
  · cases List.mem_singleton.1 last
    exact .inr reads

/-- With an input changed, a node reads what it read and what the changed one reads. -/
theorem sources_modifyInput {name source other : String} {change : Input → Input}
    (reads : ∀ input, (change input).node = some other)
    (read : source ∈ (node.modifyInput name change).sources) : source ∈ node.sources ∨ source = other := by
  -- The changed input reads the one new source.
  obtain ⟨input, member, isSource⟩ := List.mem_filterMap.1 read
  rcases mem_modifyFirst member with there | ⟨old, _, _, rfl⟩
  · exact .inl (List.mem_filterMap.2 ⟨input, there, isSource⟩)
  · exact .inr (Option.some.inj (isSource.symm.trans (reads old)))

end Node

namespace Graph

variable {graph : Graph}

/-- Changing a node without changing its name changes no name of the graph. -/
theorem names_modifyNode {name : String} {change : Node → Node} (same : ∀ node, (change node).name = node.name) :
    (graph.modifyNode name change).nodes.map (·.name) = graph.nodes.map (·.name) :=
  -- The node that is changed keeps its name, and so do all others.
  map_modifyFirst _ _ _ same _

/-- Adding a node adds its name. -/
theorem mem_names_addNode {new : Node} {name : String} :
    name ∈ (graph.addNode new).nodes.map (·.name) ↔ name ∈ graph.nodes.map (·.name) ∨ name = new.name := by
  simp only [List.mem_map, mem_addNode]
  constructor
  · rintro ⟨node, ⟨there, _⟩ | rfl, rfl⟩
    · exact .inl ⟨node, there, rfl⟩
    · exact .inr rfl
  · rintro (⟨node, there, rfl⟩ | rfl)
    -- A node of the same name gives way to the new one.
    · by_cases same : node.name = new.name
      · exact ⟨new, .inr rfl, same.symm⟩
      · exact ⟨node, .inl ⟨there, same⟩, rfl⟩
    · exact ⟨new, .inr rfl, rfl⟩

/-- A name of a graph stays when a node is added and another one changed. -/
theorem mem_names_addNode_modifyNode {new : Node} {name other : String} {change : Node → Node}
    (same : ∀ node, (change node).name = node.name) (there : other ∈ graph.nodes.map (·.name)) :
    other ∈ ((graph.addNode new).modifyNode name change).nodes.map (·.name) := by
  -- A node is added and another changed, and neither removes a name.
  rw [names_modifyNode same]
  exact mem_names_addNode.2 (.inl there)

/-- After a node was added and another one changed, a node is an old one, the new one, or the changed one. -/
theorem mem_addNode_modifyNode {new node : Node} {name : String} {change : Node → Node}
    (apart : name ≠ new.name) (member : node ∈ ((graph.addNode new).modifyNode name change).nodes) :
    node ∈ graph.nodes ∨ node = new ∨ ∃ old ∈ graph.nodes, old.name = name ∧ node = change old := by
  -- The changed node is not the added one, as that has another name.
  rcases mem_modifyNode member with there | ⟨old, inside, named, rfl⟩
  · exact (mem_addNode.1 there).imp And.left .inl
  · rcases mem_addNode.1 inside with ⟨was, _⟩ | rfl
    · exact .inr (.inr ⟨old, was, named, rfl⟩)
    · exact absurd named.symm apart

namespace Sound

/-- A sound graph stays sound when a node is changed to a callable one that reads nothing new. -/
theorem modifyNode (sound : graph.Sound) {name : String} {change : Node → Node}
    (same : ∀ node, (change node).name = node.name)
    (callable : ∀ node ∈ graph.nodes, node.name = name → (change node).Callable)
    (sources : ∀ node source, source ∈ (change node).sources → source ∈ node.sources) :
    (graph.modifyNode name change).Sound := by
  -- Names and ranks stay, and the changed node reads no more than it did.
  obtain ⟨rank, ranked⟩ := sound.ranked
  refine ⟨fun node member => ?_, fun node member source read => ?_, rank, fun node member source read => ?_⟩
  · rcases mem_modifyNode member with there | ⟨old, inside, named, rfl⟩
    · exact sound.callable node there
    · exact callable old inside named
  · rw [names_modifyNode same]
    rcases mem_modifyNode member with there | ⟨old, inside, _, rfl⟩
    · exact sound.fed node there source read
    · exact sound.fed old inside source (sources old source read)
  · rcases mem_modifyNode member with there | ⟨old, inside, _, rfl⟩
    · exact ranked node there source read
    · exact (same old).symm ▸ ranked old inside source (sources old source read)

/-- A sound graph stays sound when a new node is put between a node and some of what that reads. -/
theorem interpose (sound : graph.Sound) {new : Node} {name : String} {change : Node → Node}
    (fresh : new.name ∉ graph.nodes.map (·.name)) (apart : name ≠ new.name) (added : new.Callable)
    (draws : ∀ source ∈ new.sources, ∃ node ∈ graph.nodes, node.name = name ∧ source ∈ node.sources)
    (same : ∀ node, (change node).name = node.name)
    (callable : ∀ node ∈ graph.nodes, node.name = name → (change node).Callable)
    (sources : ∀ node source, source ∈ (change node).sources → source ∈ node.sources ∨ source = new.name) :
    ((graph.addNode new).modifyNode name change).Sound := by
  obtain ⟨rank, ranked⟩ := sound.ranked
  have old_ne : ∀ {old}, old ∈ graph.nodes → old.name ≠ new.name := fun inside equal =>
    fresh (equal ▸ List.mem_map_of_mem inside)
  have source_ne : ∀ {old}, old ∈ graph.nodes → ∀ source ∈ old.sources, source ≠ new.name :=
    fun inside source read equal => fresh (equal ▸ sound.fed _ inside source read)
  have fed : ∀ {old}, old ∈ graph.nodes → ∀ source ∈ old.sources,
      source ∈ ((graph.addNode new).modifyNode name change).nodes.map (·.name) := by
    exact fun inside source read => mem_names_addNode_modifyNode same (sound.fed _ inside source read)
  refine ⟨fun node member => ?_, fun node member source read => ?_,
    -- The ranks are spread so that the new node comes right below the changed one.
    fun other => if other = new.name then 2 * rank name else 2 * rank other + 1,
    fun node member source read => ?_⟩
  -- A node of the new graph was there, came in, or was changed.
  · rcases mem_addNode_modifyNode apart member with there | rfl | ⟨old, inside, named, rfl⟩
    · exact sound.callable node there
    · exact added
    · exact callable old inside named
  · rcases mem_addNode_modifyNode apart member with there | rfl | ⟨old, inside, named, rfl⟩
    · exact fed there source read
    · obtain ⟨reader, inside, _, reads⟩ := draws source read
      exact fed inside source reads
    · rcases sources old source read with before | rfl
      · exact fed inside source before
      · rw [names_modifyNode same]
        exact mem_names_addNode.2 (.inr rfl)
  · dsimp only
    rcases mem_addNode_modifyNode apart member with there | rfl | ⟨old, inside, named, rfl⟩
    · have lower := ranked node there source read
      rw [if_neg (source_ne there source read), if_neg (old_ne there)]
      omega
    · obtain ⟨reader, inside, rfl, reads⟩ := draws source read
      have lower := ranked reader inside source reads
      rw [if_neg (source_ne inside source reads), if_pos rfl]
      omega
    · rw [same, if_neg (old_ne inside)]
      rcases sources old source read with before | rfl
      · have lower := ranked old inside source before
        rw [if_neg (source_ne inside source before)]
        omega
      · rw [if_pos rfl, named]
        omega

end Sound

end Graph

end Document

namespace Texture

open Document (Graph Node Input)

/-- A node awaits that a leaf is routed when it is textured, if it has that name, and has none of the two names
that are given in routing it. -/
structure Awaits (leaf : String) (node : Node) : Prop where
  textured : node.name = leaf → node.Textured
  reader : node.name ≠ readerName leaf
  remapper : node.name ≠ remapperName leaf

/-- Whether a node awaits a routing does not depend on its inputs. -/
theorem Awaits.withInputs {leaf : String} (node : Node) (inputs : List Input) (awaits : Awaits leaf node) :
    Awaits leaf { node with inputs } :=
  -- What is awaited is said of the node's name and of how it was described.
  ⟨awaits.textured, awaits.reader, awaits.remapper⟩

variable {context : TextureContext}
  (reads : ∀ name primvar, (readerNode context name primvar).Callable)
  (remaps : ∀ name source, (∀ input, source = some input → input.output = none ∧
    ∀ value, input.value = some value → value.Fits "vector2") → (remapperNode context name source).Callable)
  {graph : Graph} (sound : graph.Sound) {leaf : String}
  (textured : ∀ node ∈ graph.nodes, node.name = leaf → node.Textured)

include sound textured

/-- Setting the file of a texture node keeps a graph sound. -/
theorem sound_setFile (text : String) : (setFile graph leaf text).Sound := by
  -- A file is given by its text, so the node reads nothing new.
  refine sound.modifyNode (fun node => ?_) (fun node inside named => ?_) fun node source => Node.sources_setValue
  · obtain ⟨_, changed⟩ := node.setValue_eq "file" (.string text) "filename"
    rw [changed]
  · exact (sound.callable node inside).setFile (textured node inside named) text

include reads

/-- Giving a texture node coordinates keeps a graph sound. -/
theorem sound_withCoordinates (fresh : ∀ node ∈ graph.nodes, node.name ≠ readerName leaf) (path type : String) :
    (withCoordinates context path type leaf graph).1.Sound := by
  unfold withCoordinates
  split
  · exact sound
  · refine sound.interpose (fun taken => ?_) (readerName_ne leaf) (reads _ _) (fun source read => ?_)
      (fun _ => rfl) (fun node inside named => ?_) fun node source read => ?_
    · obtain ⟨node, inside, named⟩ := List.mem_map.1 taken
      exact fresh node inside named
    -- The reader itself reads nothing.
    · simp [Node.sources, readerNode] at read
    · exact (sound.callable node inside).putCoordinates (textured node inside named) _
    · exact (Node.sources_putInput read).imp_right fun same => (Option.some.inj same).symm

omit reads
include remaps

/-- Putting a remapper behind the coordinates of a texture node keeps a graph sound. -/
theorem sound_withRemapper (fresh : ∀ node ∈ graph.nodes, node.name ≠ remapperName leaf) :
    (withRemapper context leaf graph).Sound := by
  -- The remapper takes over the input that the node has for its coordinates.
  have taken : ∀ input, ((graph.node? leaf).bind (·.input? "texcoord")) = some input →
      ∃ node ∈ graph.nodes, node.name = leaf ∧ input ∈ node.inputs ∧ input.name = "texcoord" := by
    intro input found
    obtain ⟨node, there, isInput⟩ := Option.bind_eq_some_iff.1 found
    exact ⟨node, List.mem_of_find?_eq_some there, by simpa using List.find?_some there,
      List.mem_of_find?_eq_some isInput, by simpa using List.find?_some isInput⟩
  refine sound.interpose (fun taken => ?_) (remapperName_ne leaf) (remaps _ _ fun input found => ?_)
    (fun source read => ?_) (fun _ => rfl) (fun node inside _ => ?_)
    fun node source => Node.sources_modifyInput fun _ => rfl
  · obtain ⟨node, inside, named⟩ := List.mem_map.1 taken
    exact fresh node inside named
  · obtain ⟨node, inside, named, listed, isCoordinates⟩ := taken input found
    obtain ⟨signature, declared, plugs⟩ := textured node inside named
    have accepts := (sound.callable node inside).accepts declared input listed
    obtain ⟨plug, isPlug, same⟩ := plugs.coordinates
    have suits := accepts.2 plug isPlug (isCoordinates.trans same.symm)
    exact ⟨accepts.1, fun value isValue => plugs.planar plug isPlug same ▸ suits.authored value isValue⟩
  -- The remapper reads what the node read for its coordinates.
  · simp only [Node.sources, remapperNode, List.filterMap_cons, List.filterMap_nil] at read
    split at read
    · simp at read
    · rename_i other reads
      obtain ⟨input, found, isNode⟩ := Option.bind_eq_some_iff.1 reads
      obtain ⟨node, inside, named, listed, _⟩ := taken input found
      cases List.mem_singleton.1 read
      exact ⟨node, inside, named, List.mem_filterMap.2 ⟨input, listed, isNode⟩⟩
  · exact (sound.callable node inside).modifyCoordinates _

omit sound textured remaps

/-- A name that is in a graph is in it once a texture node is routed. -/
theorem mem_names_routeNode (network : Network) (node type : String) (path : Path) {name : String}
    (named : name ∈ graph.nodes.map (·.name)) :
    name ∈ (routeNode context network node type path graph).1.nodes.map (·.name) := by
  -- Writing the file changes a node under its name.
  have filed (text : String) : name ∈ (setFile graph (NodePath.leaf node) text).nodes.map (·.name) := by
    rw [setFile, Graph.names_modifyNode fun other => ?_]
    · exact named
    · obtain ⟨_, changed⟩ := other.setValue_eq "file" (.string text) "filename"
      rw [changed]
  -- Nodes are only ever added.
  have coordinated {graph : Graph} (there : name ∈ graph.nodes.map (·.name)) :
      name ∈ (withCoordinates context node type (NodePath.leaf node) graph).1.nodes.map (·.name) := by
    unfold withCoordinates
    split
    · exact there
    · exact Graph.mem_names_addNode_modifyNode (fun _ => rfl) there
  unfold routeNode
  split
  · exact Graph.mem_names_addNode_modifyNode (fun _ => rfl) (coordinated (filed _))
  · exact coordinated (filed _)

include reads remaps sound

/-- Routing a texture node that awaits it keeps a graph sound. -/
theorem sound_routeNode (network : Network) (node type : String) (path : Path)
    (awaits : ∀ other ∈ graph.nodes, Awaits (NodePath.leaf node) other) :
    (routeNode context network node type path graph).1.Sound := by
  -- Setting the file first changes nothing of what is awaited.
  have waiting (text : String) := forall_setFile Awaits.withInputs graph (NodePath.leaf node) text awaits
  have filed (text : String) := sound_setFile sound (fun other inside => (awaits other inside).textured) text
  have coordinated (text : String) := sound_withCoordinates reads (filed text)
    (fun other inside => (waiting text other inside).textured)
    (fun other inside => (waiting text other inside).reader) node type
  unfold routeNode
  split
  · refine sound_withRemapper remaps (coordinated path) ?_ ?_
    -- The reader that may have been added is neither the texture node nor its remapper.
    · exact forall_withCoordinates (fun _ _ => id) node type (NodePath.leaf node)
        (fun primvar same => absurd same.symm (readerName_ne _)) fun other inside =>
          (waiting path other inside).textured
    · exact forall_withCoordinates (fun _ _ => id) node type (NodePath.leaf node)
        (fun primvar => readerName_ne_remapperName _ _) fun other inside => (waiting path other inside).remapper
  · exact coordinated _

end Texture

/-- Routing a path keeps all names in the graphs. -/
theorem RoutedDocument.exists_name_routePath (context : TextureContext) (network : Network)
    (routed : RoutedDocument) (path : String) {name : String}
    (there : ∃ graph ∈ routed.document.graphs, name ∈ graph.nodes.map (·.name)) :
    ∃ graph ∈ (routed.routePath context network path).document.graphs, name ∈ graph.nodes.map (·.name) := by
  obtain ⟨graph, inside, named⟩ := there
  rcases routed.graphs_routePath context network path with same | ⟨position, old, file, isOld, changed⟩
  · exact ⟨graph, same ▸ inside, named⟩
  · obtain ⟨index, found⟩ := List.mem_iff_getElem?.1 inside
    rw [changed]
    -- The graph is the one with the node that is routed, or is left alone.
    by_cases here : position = index
    · subst here
      cases isOld.symm.trans found
      exact ⟨_, List.mem_of_getElem? (by rw [List.getElem?_modify_eq, found]; rfl),
        Texture.mem_names_routeNode network path _ file named⟩
    · exact ⟨graph, List.mem_of_getElem? ((List.getElem?_modify_ne _ _ here).trans found), named⟩

section routing

variable {context : TextureContext}
  (reads : ∀ name primvar, (Texture.readerNode context name primvar).Callable)
  (remaps : ∀ name source, (∀ input, source = some input → input.output = none ∧
    ∀ value, input.value = some value → value.Fits "vector2") →
      (Texture.remapperNode context name source).Callable)
  (network : Network)

include reads remaps

/-- Routing paths keeps graphs sound, and all names in them, if their nodes await it and no leaf has the name
of another one's reader or remapper. -/
theorem RoutedDocument.sound_routePaths {paths : List String} (distinct : (paths.map NodePath.leaf).Nodup)
    (apart : ∀ path ∈ paths, ∀ other ∈ paths, NodePath.leaf other ≠ Texture.readerName (NodePath.leaf path) ∧
      NodePath.leaf other ≠ Texture.remapperName (NodePath.leaf path))
    {routed : RoutedDocument} (sound : ∀ graph ∈ routed.document.graphs, graph.Sound)
    (awaits : ∀ graph ∈ routed.document.graphs, ∀ node ∈ graph.nodes, ∀ path ∈ paths,
      Texture.Awaits (NodePath.leaf path) node) :
    let done := paths.foldl (routePath context network) routed
    (∀ graph ∈ done.document.graphs, graph.Sound) ∧
      ∀ name, (∃ graph ∈ routed.document.graphs, name ∈ graph.nodes.map (·.name)) →
        ∃ graph ∈ done.document.graphs, name ∈ graph.nodes.map (·.name) := by
  -- The paths ahead are awaited all the time, and each is routed once.
  induction paths generalizing routed with
  | nil => exact ⟨sound, fun name there => there⟩
  | cons path rest ih =>
    rw [List.map_cons, List.nodup_cons] at distinct
    have here := List.mem_cons_self (a := path) (l := rest)
    have later : ∀ {other}, other ∈ rest → other ∈ path :: rest := fun inside => List.mem_cons_of_mem _ inside
    have next : ∀ graph ∈ (routed.routePath context network path).document.graphs, graph.Sound := by
      intro graph member
      rcases routed.mem_graphs_routePath context network path member with there | ⟨old, inside, file, rfl⟩
      · exact sound graph there
      · exact Texture.sound_routeNode reads remaps (sound old inside) network path _ file fun node isNode =>
          awaits old inside node isNode path here
    -- What is added for one leaf is nothing that is awaited for another one.
    have waits : ∀ graph ∈ (routed.routePath context network path).document.graphs, ∀ node ∈ graph.nodes,
        ∀ other ∈ rest, Texture.Awaits (NodePath.leaf other) node := by
      intro graph member node inside other isLater
      rcases routed.mem_graphs_routePath context network path member with there | ⟨old, wasThere, file, rfl⟩
      · exact awaits graph there node inside other (later isLater)
      · have leaf_ne : NodePath.leaf other ≠ NodePath.leaf path := fun same =>
          distinct.1 (List.mem_map.2 ⟨other, isLater, same⟩)
        have named := apart path here other (later isLater)
        refine Texture.forall_routeNode Texture.Awaits.withInputs network path _ file (fun primvar => ?_)
          (fun source => ?_)
          (fun node isNode => awaits old wasThere node isNode other (later isLater)) node inside
        · exact ⟨fun same => absurd same.symm named.1, fun same => leaf_ne (Texture.readerName_inj same).symm,
            Texture.readerName_ne_remapperName _ _⟩
        · exact ⟨fun same => absurd same.symm named.2,
            fun same => Texture.readerName_ne_remapperName _ _ same.symm,
            fun same => leaf_ne (Texture.remapperName_inj same).symm⟩
    obtain ⟨sounds, keeps⟩ := ih distinct.2 (fun first inside other inside' =>
      apart first (later inside) other (later inside')) next waits
    exact ⟨sounds, fun name there => keeps name (routed.exists_name_routePath context network path there)⟩

/-- Routing textures keeps the graphs of a document sound, and all names in them, if their nodes await it and
no leaf of a texture has the name of another one's reader or remapper. -/
theorem Document.sound_routeTextures {document : Document} {paths : NameSet}
    (distinct : (paths.keys.map NodePath.leaf).Nodup)
    (apart : ∀ path ∈ paths.keys, ∀ other ∈ paths.keys,
      NodePath.leaf other ≠ Texture.readerName (NodePath.leaf path) ∧
        NodePath.leaf other ≠ Texture.remapperName (NodePath.leaf path))
    (sound : ∀ graph ∈ document.graphs, graph.Sound)
    (awaits : ∀ graph ∈ document.graphs, ∀ node ∈ graph.nodes, ∀ path ∈ paths.keys,
      Texture.Awaits (NodePath.leaf path) node) :
    let routed := (document.routeTextures context network paths).document
    (∀ graph ∈ routed.graphs, graph.Sound) ∧
      ∀ name, (∃ graph ∈ document.graphs, name ∈ graph.nodes.map (·.name)) →
        ∃ graph ∈ routed.graphs, name ∈ graph.nodes.map (·.name) :=
  -- Textures are routed path by path, and each step keeps the graphs sound.
  RoutedDocument.sound_routePaths reads remaps network distinct apart sound awaits

end routing

end ShadeBake
