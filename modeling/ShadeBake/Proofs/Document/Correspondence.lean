import Mathlib.Data.List.Nodup
import Mathlib.Data.Set.Function
import ShadeBake.Proofs.Document.Lookup

/-! A built document captures what feeds the listed inputs of the terminal: it has one node for each of these
nodes, grouped by their keys, and its texture paths and its warnings are theirs. -/

namespace ShadeBake

namespace Network

/-- The existing nodes that some inputs of a node read, in the order of the inputs. -/
def sourcesOf (network : Network) (node : String) (names : List String) : List String :=
  ((names.filterMap (network.input? node)).map (·.source)).filter (network.hasNode ·)

/-- From some inputs of a terminal those nodes are reached that are reachable from the sources of these. -/
theorem contains_reachable_iff {network : Network} {terminal path : String} {names : List String} :
    (network.reachable (network.sourcesOf terminal names)).contains path = true ↔
      DocumentBuilder.Reached network terminal names path := by
  rw [mem_reachable_iff]
  simp only [sourcesOf, List.mem_filter, List.mem_map, List.mem_filterMap]
  -- A root is the source of a connection, and exists.
  constructor
  · rintro ⟨_, ⟨⟨connection, ⟨name, listed, connected⟩, rfl⟩, present⟩, draws⟩
    exact ⟨name, listed, connection, connected, present, draws⟩
  · rintro ⟨name, listed, connection, connected, present, draws⟩
    exact ⟨_, ⟨⟨connection, ⟨name, listed, connected⟩, rfl⟩, present⟩, draws⟩

end Network

namespace Document

/-- The node at a place, which is the position of a graph and that of a node in it. -/
def nodeAt? (document : Document) (place : Nat × Nat) : Option Node :=
  (document.graphs[place.1]?).bind (·.nodes[place.2]?)

end Document

namespace BuiltDocument

open Document (nodeFor graphKey)

variable {vocabulary : Vocabulary} {network : Network} {material : String} {built : BuiltDocument}
  {paths : List String}

/-- The place of a path's node: the graph of its key, and there the turn of the path among those of the key. -/
def place (built : BuiltDocument) (material : String) (paths : List String) (path : String) : Nat × Nat :=
  (built.graphKeys.idxOf (graphKey material path),
    (paths.filter (graphKey material · = graphKey material path)).idxOf path)

/-- The node at a place is that for the path of this turn among those of the graph's key. -/
theorem Holds.nodeAt?_eq (holds : built.Holds vocabulary network material paths) (place : Nat × Nat) :
    built.document.nodeAt? place =
      ((built.graphKeys[place.1]?).bind fun key =>
        (paths.filter (graphKey material · = key))[place.2]?).map (nodeFor vocabulary network) := by
  have nodes := holds.getElem? place.1
  unfold Document.nodeAt?
  -- A position has a graph exactly if it has a key.
  cases there : built.document.graphs[place.1]? with
  | none =>
    rw [there, Option.map_none, eq_comm, Option.map_eq_none_iff] at nodes
    rw [nodes, Option.bind_none, Option.bind_none, Option.map_none]
  | some graph =>
    rw [there, Option.map_some, eq_comm, Option.map_eq_some_iff] at nodes
    obtain ⟨key, keyed, same⟩ := nodes
    rw [keyed, Option.bind_some, Option.bind_some, ← same, group, List.getElem?_map]

/-- A held path is in its turn at its place. -/
theorem Holds.turn (holds : built.Holds vocabulary network material paths) {path : String}
    (inside : path ∈ paths) :
    ((built.graphKeys[(built.place material paths path).1]?).bind fun key =>
      (paths.filter (graphKey material · = key))[(built.place material paths path).2]?) = some path := by
  -- The key of the path has its place among the keys, and the path its own among those of the key.
  have listed : path ∈ paths.filter (graphKey material · = graphKey material path) :=
    List.mem_filter.2 ⟨inside, decide_eq_true rfl⟩
  rw [place, List.getElem?_idxOf (holds.keyed path inside), Option.bind_some, List.getElem?_idxOf listed]

/-- Held paths have one graph exactly if they have one key. -/
theorem Holds.place_fst_eq_iff (holds : built.Holds vocabulary network material paths) {path other : String}
    (inside : path ∈ paths) :
    (built.place material paths path).1 = (built.place material paths other).1 ↔
      graphKey material path = graphKey material other :=
  -- The graph of a path is found at the turn of its key, and keys do not repeat.
  List.idxOf_inj (holds.keyed path inside)

/-- The places of the held paths are those with a node, and no two paths share one. -/
theorem Holds.place_bijOn (holds : built.Holds vocabulary network material paths) (distinct : paths.Nodup) :
    Set.BijOn (built.place material paths) {path | path ∈ paths}
      {place | (built.document.nodeAt? place).isSome = true} := by
  refine ⟨fun path inside => ?_, fun path inside other inside' same => ?_, fun place there => ?_⟩
  · rw [Set.mem_ofPred_eq, holds.nodeAt?_eq, holds.turn inside]
    rfl
  -- What is in turn at one place is one path.
  · have turn := holds.turn inside
    rw [same, holds.turn inside'] at turn
    exact (Option.some.inj turn).symm
  · rw [Set.mem_ofPred_eq, holds.nodeAt?_eq, Option.isSome_map] at there
    obtain ⟨path, turn⟩ := Option.isSome_iff_exists.1 there
    obtain ⟨key, keyed, listed⟩ := Option.bind_eq_some_iff.1 turn
    obtain ⟨inside, isKey⟩ := List.mem_filter.1 (List.mem_of_getElem? listed)
    obtain rfl := of_decide_eq_true isKey
    -- Neither a key nor a path comes twice, so that there is no other place for the path.
    obtain ⟨bound, atKey⟩ := List.getElem?_eq_some_iff.1 keyed
    obtain ⟨turns, atPath⟩ := List.getElem?_eq_some_iff.1 listed
    have graph := holds.distinct.idxOf_getElem place.1 bound
    have node := (distinct.filter _).idxOf_getElem place.2 turns
    rw [atKey] at graph
    rw [atPath] at node
    exact ⟨path, inside, Prod.ext graph node⟩

end BuiltDocument

namespace Document

/-- A path is of a texture type exactly if its type is registered as a node type with the role of a texture. -/
theorem isTexture_describe_iff {vocabulary : Vocabulary} {type : String} :
    (vocabulary.describe type).isTexture = true ↔
      ∃ entry, vocabulary.registry.definition? type = some entry ∧ entry.role = some "texture" := by
  unfold Vocabulary.describe NodeDescription.of
  cases vocabulary.registry.definition? type with
  | some entry => simp [NodeDescription.ofEntry, ShaderEntry.isTexture]
  -- No type of the library is one of textures.
  | none => cases vocabulary.library.find? type <;> simp [NodeDescription.ofDefinition]

/-- The warnings of a node are for its inputs whose sources do not exist. -/
theorem mem_danglingWarnings_iff {network : Network} {path : String} {warning : Warning} :
    warning ∈ danglingWarnings network path ↔
      ∃ name connection, network.input? path name = some connection ∧
        network.hasNode connection.source = false ∧
        warning = .unknownSource connection.source path name := by
  -- A warning is made for each connection of the node without a source.
  simp only [danglingWarnings, List.mem_filterMap, Prod.exists, Network.mem_inputs_iff]
  constructor
  · rintro ⟨name, connection, connected, made⟩
    split at made
    · simp at made
    · rename_i missing
      exact ⟨name, connection, connected, Bool.eq_false_iff.2 missing, (Option.some.inj made).symm⟩
  · rintro ⟨name, connection, connected, missing, rfl⟩
    exact ⟨name, connection, connected, by simp [missing]⟩

/-- No input of distinct nodes is warned of twice. -/
theorem flatMap_danglingWarnings_nodup (network : Network) {paths : List String} (distinct : paths.Nodup) :
    (paths.flatMap (danglingWarnings network)).Nodup := by
  -- A warning tells the node and the input, and neither is listed twice.
  refine List.nodup_flatMap.2 ⟨fun path _ => ?_, distinct.imp fun apart warning first second => ?_⟩
  · refine List.pairwise_filterMap.2 ((List.pairwise_map.1 (network.inputNames_nodup path)).imp ?_)
    rintro ⟨name, connection⟩ ⟨other, _⟩ apart first made second made' same
    simp only [Option.ite_none_left_eq_some, Option.some.injEq] at made made'
    exact apart (Warning.unknownSource.inj ((made.2.trans same).trans made'.2.symm)).2.2
  · obtain ⟨_, _, _, _, rfl⟩ := mem_danglingWarnings_iff.1 first
    obtain ⟨_, _, _, _, same⟩ := mem_danglingWarnings_iff.1 second
    exact apart (Warning.unknownSource.inj same).2.1

/-- A built document captures what feeds the listed inputs of the terminal. -/
theorem build_captures (vocabulary : Vocabulary) (network : Network) (terminal : String) (names : List String) :
    let built := build vocabulary network terminal names
    let upstream := network.reachable (network.sourcesOf terminal names)
    let material := NodePath.materialName network.materialPath
    let place := built.place material (DocumentBuilder.visited network terminal [] names)
    Set.BijOn place {path | upstream.contains path = true}
        {place | (built.document.nodeAt? place).isSome = true} ∧
      (∀ path, upstream.contains path = true →
        built.document.nodeAt? (place path) = some (nodeFor vocabulary network path) ∧
          (nodeFor vocabulary network path).name = NodePath.leaf path) ∧
      (∀ path other, upstream.contains path = true → upstream.contains other = true →
        ((place path).1 = (place other).1 ↔ graphKey material path = graphKey material other)) ∧
      (∀ path, path ∈ Dict.keys built.texturePaths ↔ upstream.contains path = true ∧
        ∃ entry, vocabulary.registry.definition? (network.typeOf path) = some entry ∧
          entry.role = some "texture") ∧
      built.warnings.Nodup ∧
      ∀ warning, warning ∈ built.warnings ↔ ∃ path name connection, upstream.contains path = true ∧
        network.input? path name = some connection ∧ network.hasNode connection.source = false ∧
        warning = .unknownSource connection.source path name := by
  -- All parts are read off the builder's invariant, with what was visited for what is upstream.
  intro built upstream material place
  obtain ⟨holds, distinct, visits⟩ := build_holds vocabulary network terminal names
  have records := build_records vocabulary network terminal names
  have listed : ∀ path, upstream.contains path = true ↔
      path ∈ DocumentBuilder.visited network terminal [] names := fun path =>
    Network.contains_reachable_iff.trans (visits path).symm
  simp only [listed]
  -- The places come from the builder's invariant, and textures and warnings from its records.
  refine ⟨holds.place_bijOn distinct, fun path inside => ⟨?_, name_nodeFor ..⟩,
    fun path other inside _ => holds.place_fst_eq_iff inside, fun path => ?_, ?_, fun warning => ?_⟩
  · rw [holds.nodeAt?_eq, holds.turn inside, Option.map_some]
  · rw [records.textures, isTexture_describe_iff]
  · rw [records.warnings]
    exact flatMap_danglingWarnings_nodup network distinct
  · rw [records.warnings, List.mem_flatMap]
    simp only [mem_danglingWarnings_iff, exists_and_left]

end Document

end ShadeBake
