import ShadeBake.Proofs.Document.Node

/-! A built document groups the nodes that feed the terminal: one graph for each key, with the nodes of that
key in the order of the visit. -/

namespace ShadeBake

/-- Changing what a list holds at the place of one of its distinct keys changes what stands for that key. -/
theorem modify_idxOf_map {β : Type} {keys : List String} (distinct : keys.Nodup) {key : String}
    (inside : key ∈ keys) (view : String → β) (change : β → β) :
    (keys.map view).modify (keys.idxOf key) change =
      keys.map fun other => if other = key then change (view other) else view other := by
  induction keys with
  | nil => simp at inside
  | cons head rest ih =>
    rw [List.nodup_cons] at distinct
    by_cases same : head = key
    -- The head is the key, so no later one is.
    · subst same
      simp only [List.map_cons, List.idxOf_cons_self, List.modify_zero_cons, if_true]
      congr 1
      refine List.map_congr_left fun other later => ?_
      have apart : other ≠ head := fun equal => distinct.1 (equal ▸ later)
      rw [if_neg apart]
    -- The key is in the rest, at one position less.
    · have later := (List.mem_cons.1 inside).resolve_left (Ne.symm same)
      rw [List.idxOf_cons, beq_eq_false_iff_ne.2 same, cond_false]
      simp only [List.map_cons, List.modify_succ_cons, if_neg same, ih distinct.2 later]

/-- Changing one element changes the view of it. -/
theorem map_modify {α β : Type} (view : α → β) (change : α → α) (changed : β → β)
    (same : ∀ a, view (change a) = changed (view a)) (list : List α) (position : Nat) :
    (list.modify position change).map view = (list.map view).modify position changed := by
  induction list generalizing position with
  | nil => simp
  | cons head rest ih =>
    -- The position is here or further on.
    cases position with
    | zero => simp [same]
    | succ position => simp [ih]

namespace BuiltDocument

open Document (nodeFor graphKey)

variable (vocabulary : Vocabulary) (network : Network) (material : String)

/-- The nodes of a key among some paths, in the order of the paths. -/
def group (paths : List String) (key : String) : List Document.Node :=
  (paths.filter (graphKey material · = key)).map (nodeFor vocabulary network)

/-- The nodes of a key are those for the paths of that key. -/
theorem mem_group {vocabulary : Vocabulary} {network : Network} {material : String} {paths : List String}
    {key : String} {node : Document.Node} :
    node ∈ group vocabulary network material paths key ↔
      ∃ path ∈ paths, graphKey material path = key ∧ nodeFor vocabulary network path = node := by
  -- A group filters the paths by their key and maps each to its node.
  simp only [group, List.mem_map, List.mem_filter, decide_eq_true_eq, and_assoc]

/-- A document holds some paths when it has one graph for each of their keys, with the nodes of that key. -/
structure Holds (built : BuiltDocument) (paths : List String) : Prop where
  distinct : built.graphKeys.Nodup
  keyed : ∀ path ∈ paths, graphKey material path ∈ built.graphKeys
  grouped : built.document.graphs.map (·.nodes) =
    built.graphKeys.map (group vocabulary network material paths)

variable {vocabulary network material}

/-- A key without a graph gets an empty one. -/
theorem Holds.withGraph {built : BuiltDocument} {paths : List String}
    (holds : built.Holds vocabulary network material paths) (key : String) :
    (built.withGraph key).Holds vocabulary network material paths ∧
      key ∈ (built.withGraph key).graphKeys := by
  unfold BuiltDocument.withGraph
  by_cases known : key ∈ built.graphKeys
  · rw [if_pos known]
    exact ⟨holds, known⟩
  · rw [if_neg known]
    refine ⟨⟨?_, ?_, ?_⟩, by simp⟩
    -- The new key was not there.
    · rw [List.nodup_append]
      refine ⟨holds.distinct, by simp, fun old inside new isKey same => ?_⟩
      exact known (List.mem_singleton.1 isKey ▸ same ▸ inside)
    · exact fun path inside => List.mem_append_left _ (holds.keyed path inside)
    -- No path has the new key, as the graph of that key would be there.
    · have empty : group vocabulary network material paths key = [] := by
        unfold group
        rw [List.map_eq_nil_iff, List.filter_eq_nil_iff]
        intro path inside hasKey
        exact known (of_decide_eq_true hasKey ▸ holds.keyed path inside)
      simp only [Document.addGraph, List.map_append, List.map_cons, List.map_nil, holds.grouped, empty]

/-- Adding a node puts it last in the graph of its key. -/
theorem Holds.addNode {built : BuiltDocument} {paths : List String}
    (holds : built.Holds vocabulary network material paths) (path : String) :
    (built.addNode vocabulary network material path).Holds vocabulary network material (paths ++ [path]) := by
  obtain ⟨opened, there⟩ := holds.withGraph (graphKey material path)
  refine ⟨opened.distinct, fun other inside => ?_, ?_⟩
  -- The key of the new path was put there for it.
  · rcases List.mem_append.1 inside with old | new
    · exact opened.keyed other old
    · exact List.mem_singleton.1 new ▸ there
  · simp only [BuiltDocument.addNode, Document.modifyGraph]
    rw [map_modify _ _ (· ++ [nodeFor vocabulary network path]) fun _ => rfl, opened.grouped,
      modify_idxOf_map opened.distinct there]
    -- The node belongs to the group of its own key and to no other.
    refine List.map_congr_left fun key _ => ?_
    simp only [group, List.filter_append, List.map_append]
    by_cases same : key = graphKey material path
    · subst same
      simp
    · simp [same, Ne.symm same]

/-- Adding nodes one after the other holds all of them. -/
theorem Holds.addNodes {built : BuiltDocument} {paths : List String}
    (holds : built.Holds vocabulary network material paths) (more : List String) :
    (more.foldl (BuiltDocument.addNode vocabulary network material) built).Holds vocabulary network material
      (paths ++ more) := by
  -- Each node comes behind those added before, so the paths grow at the end.
  induction more generalizing built paths with
  | nil => simpa using holds
  | cons path rest ih => simpa using ih (holds.addNode path)

/-- Outputs of graphs are no part of what is held. -/
theorem Holds.withOutput {built : BuiltDocument} {paths : List String}
    (holds : built.Holds vocabulary network material paths) (position : Nat)
    (output : Document.GraphOutput) :
    ({ built with
      document := built.document.modifyGraph position (DocumentBuilder.withOutput · output) } :
        BuiltDocument).Holds vocabulary network material paths := by
  refine ⟨holds.distinct, holds.keyed, ?_⟩
  -- An output is no node of the graph.
  have same : ∀ graph : Document.Graph, (DocumentBuilder.withOutput graph output).nodes = graph.nodes := by
    intro graph
    unfold DocumentBuilder.withOutput
    split
    · rfl
    · rfl
  have unchanged := map_modify Document.Graph.nodes (DocumentBuilder.withOutput · output) id same
    built.document.graphs position
  rw [List.modify_id] at unchanged
  exact unchanged.trans holds.grouped

end BuiltDocument

namespace DocumentBuilder

variable (vocabulary : Vocabulary) (network : Network) (terminal : String)

/-- A path is reached from some inputs of a terminal when the source of one of them draws on it. -/
def Reached (names : List String) (path : String) : Prop :=
  ∃ name ∈ names, ∃ connection, network.input? terminal name = some connection ∧
    network.hasNode connection.source = true ∧ network.DrawsOn connection.source path

/-- A builder is complete for some inputs of a terminal when it holds the paths reached from them, each
once. -/
structure Complete (names : List String) (builder : DocumentBuilder) : Prop where
  holds : builder.built.Holds vocabulary network (NodePath.materialName network.materialPath) builder.added
  distinct : builder.added.Nodup
  closed : network.ClosedUpTo builder.added []
  reached : ∀ path, path ∈ builder.added ↔ Reached network terminal names path

variable {vocabulary network terminal}

/-- Adding a connection completes the builder for one more input. -/
theorem Complete.addConnection {names : List String} {builder : DocumentBuilder}
    (complete : Complete vocabulary network terminal names builder) (name : String) :
    Complete vocabulary network terminal (names ++ [name])
      (builder.addConnection vocabulary network terminal name) := by
  -- An input without an existing source reaches nothing.
  have idle : (∀ connection, network.input? terminal name = some connection →
      network.hasNode connection.source = false) →
      Complete vocabulary network terminal (names ++ [name]) builder := by
    intro nothing
    refine ⟨complete.holds, complete.distinct, complete.closed, fun path => ?_⟩
    rw [complete.reached]
    constructor
    · rintro ⟨other, inside, reaches⟩
      exact ⟨other, List.mem_append_left _ inside, reaches⟩
    · rintro ⟨other, inside, connection, connected, present, draws⟩
      rcases List.mem_append.1 inside with old | new
      · exact ⟨other, old, connection, connected, present, draws⟩
      · rw [List.mem_singleton.1 new] at connected
        simp [nothing connection connected] at present
  unfold DocumentBuilder.addConnection
  cases connected : network.input? terminal name with
  | none => exact idle (by simp [connected])
  | some connection =>
    by_cases present : network.hasNode connection.source = true
    · simp only [present, if_true]
      -- What is added are the paths that the visit finds behind the old ones.
      have old := network.visited_isPrefix_visit builder.added [connection.source]
      have grown : builder.added ++ (network.visit builder.added [connection.source]).drop
          builder.added.length = network.visit builder.added [connection.source] :=
        List.prefix_iff_eq_append.1 old
      have holds := complete.holds.addNodes
        ((network.visit builder.added [connection.source]).drop builder.added.length)
      rw [grown] at holds
      -- The visit ends closed, and adds exactly what the source draws on.
      refine ⟨holds.withOutput _ _, Network.visit_nodup complete.distinct,
        (Network.visit_closed complete.closed.weaken).1, fun path => ?_⟩
      rw [Network.mem_visit_iff complete.closed, complete.reached]
      constructor
      · rintro (⟨other, inside, reaches⟩ | ⟨root, isSource, draws⟩)
        · exact ⟨other, List.mem_append_left _ inside, reaches⟩
        · exact ⟨name, by simp, connection, connected, present, List.mem_singleton.1 isSource ▸ draws⟩
      · rintro ⟨other, inside, connection', connected', present', draws⟩
        rcases List.mem_append.1 inside with before | now
        · exact .inl ⟨other, before, connection', connected', present', draws⟩
        · rw [List.mem_singleton.1 now, connected] at connected'
          cases connected'
          exact .inr ⟨connection.source, by simp, draws⟩
    · simp only [present, if_false, Bool.false_eq_true]
      refine idle fun other same => ?_
      cases connected.symm.trans same
      simpa using present

/-- Adding the connections of some inputs completes the builder for them. -/
theorem Complete.addConnections {names : List String} {builder : DocumentBuilder}
    (complete : Complete vocabulary network terminal names builder) (more : List String) :
    Complete vocabulary network terminal (names ++ more)
      (more.foldl (DocumentBuilder.addConnection vocabulary network terminal) builder) := by
  -- Each input comes behind those done before.
  induction more generalizing builder names with
  | nil => simpa using complete
  | cons name rest ih => simpa using ih (complete.addConnection name)

/-- A builder without graphs is complete for no inputs. -/
theorem complete_start (vocabulary : Vocabulary) (network : Network) (terminal : String)
    (document : Document) (bare : document.graphs = []) :
    Complete vocabulary network terminal [] { built := { document } } where
  -- Nothing is added yet, and no input is there to reach anything from.
  holds := ⟨List.nodup_nil, fun path inside => absurd inside List.not_mem_nil, by simp [bare]⟩
  distinct := List.nodup_nil
  closed _ inside := absurd inside List.not_mem_nil
  reached path := by simp [Reached]

/-- The paths that some inputs of a terminal bring in, in the order of the visit, behind those seen before. -/
def visited (network : Network) (terminal : String) (seen names : List String) : List String :=
  names.foldl (fun seen name =>
    match network.input? terminal name with
    | none => seen
    | some connection =>
      -- A source that does not exist brings in nothing.
      if network.hasNode connection.source then network.visit seen [connection.source] else seen) seen

/-- A builder adds the paths in the order of the visit. -/
theorem added_addConnections (vocabulary : Vocabulary) (network : Network) (terminal : String)
    (names : List String) (builder : DocumentBuilder) :
    (names.foldl (addConnection vocabulary network terminal) builder).added =
      visited network terminal builder.added names := by
  -- A connection adds what is visited from its source, and nothing if there is no source.
  unfold visited
  induction names generalizing builder with
  | nil => rfl
  | cons name rest ih =>
    rw [List.foldl_cons, List.foldl_cons, ih]
    congr 1
    unfold addConnection
    cases network.input? terminal name with
    | none => rfl
    | some connection =>
      by_cases present : network.hasNode connection.source = true
      · simp only [present, if_true]
      · simp only [present, if_false, Bool.false_eq_true]

end DocumentBuilder

namespace Document

/-- A built document holds the paths that are visited, and these are the ones that are reached, each once. -/
theorem build_holds (vocabulary : Vocabulary) (network : Network) (terminal : String)
    (names : List String) :
    (build vocabulary network terminal names).Holds vocabulary network
        (NodePath.materialName network.materialPath)
        (DocumentBuilder.visited network terminal [] names) ∧
      (DocumentBuilder.visited network terminal [] names).Nodup ∧
      ∀ path, path ∈ DocumentBuilder.visited network terminal [] names ↔
        DocumentBuilder.Reached network terminal names path := by
  -- The nodes outside the graphs come before the connections and do not matter to them.
  have start := DocumentBuilder.complete_start vocabulary network terminal
    ((({} : Document).addNode (terminalNode vocabulary network terminal)).addNode (materialNode network)) rfl
  have complete := start.addConnections names
  rw [List.nil_append] at complete
  have holds := complete.holds
  have distinct := complete.distinct
  have reached := complete.reached
  rw [DocumentBuilder.added_addConnections] at holds distinct reached
  -- The inputs of the terminal's node are set last, outside the graphs.
  exact ⟨⟨holds.distinct, holds.keyed, holds.grouped⟩, distinct, reached⟩

/-- A built document has one graph for each key of a path that is reached, which holds the nodes of that
key. -/
theorem build_graphs (vocabulary : Vocabulary) (network : Network) (terminal : String)
    (names : List String) :
    ∃ paths keys : List String, paths.Nodup ∧ keys.Nodup ∧
      (∀ path, path ∈ paths ↔ DocumentBuilder.Reached network terminal names path) ∧
      (∀ path ∈ paths, graphKey (NodePath.materialName network.materialPath) path ∈ keys) ∧
      (build vocabulary network terminal names).document.graphs.map (·.nodes) =
        keys.map (BuiltDocument.group vocabulary network
          (NodePath.materialName network.materialPath) paths) := by
  -- The graphs are those of the invariant that the builder keeps.
  obtain ⟨holds, distinct, reached⟩ := build_holds vocabulary network terminal names
  exact ⟨_, _, distinct, holds.distinct, reached, holds.keyed, holds.grouped⟩

/-- A built document records some paths when its texture paths are those of texture types among them, and its
warnings are for the inputs of each of them in turn that have no source. -/
structure Records (vocabulary : Vocabulary) (network : Network) (paths : List String)
    (built : BuiltDocument) : Prop where
  textures : ∀ path, path ∈ Dict.keys built.texturePaths ↔
    path ∈ paths ∧ (vocabulary.describe (network.typeOf path)).isTexture = true
  warnings : built.warnings = paths.flatMap (danglingWarnings network)

section records

variable {vocabulary : Vocabulary} {network : Network} {paths : List String}

/-- Adding the node for a path records it behind those recorded before. -/
theorem Records.addNode {built : BuiltDocument} (records : Records vocabulary network paths built)
    (material path : String) :
    Records vocabulary network (paths ++ [path]) (built.addNode vocabulary network material path) := by
  -- A new graph is neither a texture nor a warning.
  have opened : ∀ key, (built.withGraph key).texturePaths = built.texturePaths ∧
      (built.withGraph key).warnings = built.warnings := by
    intro key
    unfold BuiltDocument.withGraph
    split
    · exact ⟨rfl, rfl⟩
    · exact ⟨rfl, rfl⟩
  refine ⟨fun texture => ?_, ?_⟩
  -- A texture is recorded with its path, and anything else is not.
  · simp only [BuiltDocument.addNode, (opened _).1, List.mem_append, List.mem_singleton, or_and_right,
      ← records.textures texture]
    split
    · rename_i isTexture
      rw [NameSet.mem_keys_add, or_comm]
      exact or_congr_right ⟨fun same => ⟨same, same ▸ isTexture⟩, And.left⟩
    · rename_i isNone
      exact (or_iff_left fun ⟨same, isTexture⟩ => isNone (same ▸ isTexture)).symm
  · simp only [BuiltDocument.addNode, (opened _).2, records.warnings, List.flatMap_append,
      List.flatMap_singleton]

/-- Adding nodes one after the other records all of them. -/
theorem Records.addNodes {built : BuiltDocument} (records : Records vocabulary network paths built)
    (material : String) (more : List String) :
    Records vocabulary network (paths ++ more)
      (more.foldl (BuiltDocument.addNode vocabulary network material) built) := by
  -- Each path comes behind those recorded before, so the paths grow at the end.
  induction more generalizing built paths with
  | nil => simpa using records
  | cons path rest ih => simpa using ih (records.addNode material path)

/-- Adding a connection records what it brings in. -/
theorem Records.addConnection {builder : DocumentBuilder}
    (records : Records vocabulary network builder.added builder.built) (terminal name : String) :
    Records vocabulary network (builder.addConnection vocabulary network terminal name).added
      (builder.addConnection vocabulary network terminal name).built := by
  unfold DocumentBuilder.addConnection
  split
  · exact records
  · rename_i connection _
    split
    -- The new nodes are those behind the old ones in the list of all that were added.
    · have old := network.visited_isPrefix_visit builder.added [connection.source]
      have all := records.addNodes (NodePath.materialName network.materialPath)
        ((network.visit builder.added [connection.source]).drop builder.added.length)
      rw [List.prefix_iff_eq_append.1 old] at all
      exact ⟨all.textures, all.warnings⟩
    · exact records

/-- Adding connections records all that they bring in. -/
theorem Records.addConnections {builder : DocumentBuilder}
    (records : Records vocabulary network builder.added builder.built) (terminal : String)
    (names : List String) :
    Records vocabulary network
      (names.foldl (DocumentBuilder.addConnection vocabulary network terminal) builder).added
      (names.foldl (DocumentBuilder.addConnection vocabulary network terminal) builder).built :=
  -- The invariant goes from one input of the terminal to the next.
  List.foldlRecOn (motive := fun builder : DocumentBuilder =>
    Records vocabulary network builder.added builder.built) _ _ records fun _ records name _ =>
      records.addConnection terminal name

/-- A built document records the paths that are visited. -/
theorem build_records (vocabulary : Vocabulary) (network : Network) (terminal : String)
    (names : List String) :
    Records vocabulary network (DocumentBuilder.visited network terminal [] names)
      (build vocabulary network terminal names) := by
  let start : DocumentBuilder := { built := {
    document := (({} : Document).addNode (terminalNode vocabulary network terminal)).addNode
      (materialNode network) } }
  have bare : Records vocabulary network start.added start.built :=
    ⟨fun path => by simp [start, Dict.keys, Dict.empty], rfl⟩
  have records := bare.addConnections terminal names
  -- What was added is what was visited.
  rw [DocumentBuilder.added_addConnections] at records
  exact ⟨records.textures, records.warnings⟩

/-- The texture paths of a built document are paths that are reached, of texture types. -/
theorem mem_texturePaths_build {terminal path : String} {names : List String}
    (member : path ∈ Dict.keys (build vocabulary network terminal names).texturePaths) :
    DocumentBuilder.Reached network terminal names path ∧
      (vocabulary.describe (network.typeOf path)).isTexture = true :=
  -- A texture path is that of a node, and the nodes are what is reached.
  (((build_records vocabulary network terminal names).textures path).1 member).imp_left
    ((build_holds vocabulary network terminal names).2.2 path).1

end records

section congr

variable {vocabulary other : Vocabulary} {network : Network}

/-- The node for a network node depends on the description of its type alone. -/
theorem nodeFor_congr
    (alike : ∀ path, vocabulary.describe (network.typeOf path) = other.describe (network.typeOf path))
    (path : String) :
    nodeFor vocabulary network path = nodeFor other network path := by
  -- A node depends on its type through the description only.
  simp only [nodeFor, alike path]

/-- The document for a network depends on the descriptions of its nodes' types alone. -/
theorem build_congr
    (alike : ∀ path, vocabulary.describe (network.typeOf path) = other.describe (network.typeOf path))
    (terminal : String) (names : List String) :
    build vocabulary network terminal names = build other network terminal names := by
  -- The builder looks at a vocabulary only through its descriptions of the network's types.
  have shader : terminalNode vocabulary network terminal = terminalNode other network terminal := by
    simp only [terminalNode, alike terminal]
  have added : ∀ material, BuiltDocument.addNode vocabulary network material =
      BuiltDocument.addNode other network material := by
    intro material
    funext built path
    simp only [BuiltDocument.addNode, nodeFor_congr alike path, alike path]
  have connected : DocumentBuilder.addConnection vocabulary network terminal =
      DocumentBuilder.addConnection other network terminal := by
    funext builder name
    simp only [DocumentBuilder.addConnection, added, alike terminal]
  simp only [build, shader, connected]

end congr

end Document

end ShadeBake
