import Mathlib.Data.List.Nodup
import Mathlib.Data.Set.Function
import ShadeBake.Proofs.Document.Build
import ShadeBake.Proofs.Document.Locate
import ShadeBake.Proofs.Shader.Order

/-! Where leaf names tell nodes apart, a graph of a built document mirrors a part of the network: what its
nodes read and draw on by name is what the network nodes read and draw on. -/

namespace ShadeBake

namespace Document

open DocumentBuilder (Reached)

/-- A graph mirrors a part of a network when it holds the nodes of that part under their leaf names, in a
scope that is closed under reading and where these names tell nodes apart. -/
structure Mirrors (vocabulary : Vocabulary) (network : Network) (scope part : Set String) (graph : Graph) :
    Prop where
  within : part ⊆ scope
  closed : ∀ path ∈ scope, ∀ source, network.Reads path source → source ∈ scope
  apart : Set.InjOn NodePath.leaf scope
  node?_iff : ∀ name node, graph.node? name = some node ↔
    ∃ path ∈ part, NodePath.leaf path = name ∧ nodeFor vocabulary network path = node

namespace Mirrors

variable {vocabulary : Vocabulary} {network : Network} {scope part : Set String} {graph : Graph}

/-- The graph holds the nodes of its part. -/
theorem node?_leaf (mirrors : Mirrors vocabulary network scope part graph) {path : String}
    (inside : path ∈ part) :
    graph.node? (NodePath.leaf path) = some (nodeFor vocabulary network path) :=
  -- In one scope a leaf names one path.
  (mirrors.node?_iff _ _).2 ⟨path, inside, rfl, rfl⟩

/-- All that a node of the scope draws on is in the scope. -/
theorem drawsOn_closed (mirrors : Mirrors vocabulary network scope part graph) {path source : String}
    (inside : path ∈ scope) (draws : network.DrawsOn path source) : source ∈ scope := by
  -- The scope is closed under single readings.
  induction draws with
  | refl => exact inside
  | tail _ reads ih => exact mirrors.closed _ ih _ reads

/-- What a node draws on in the graph is the leaf name of a node that it draws on in the network. -/
theorem drawsOn_of_reads (mirrors : Mirrors vocabulary network scope part graph) {path name : String}
    (inside : path ∈ scope) (draws : Relation.ReflTransGen graph.Reads (NodePath.leaf path) name) :
    ∃ source, network.DrawsOn path source ∧ NodePath.leaf source = name := by
  induction draws with
  | refl => exact ⟨path, .refl, rfl⟩
  | tail _ reads ih =>
    obtain ⟨reader, draws, same⟩ := ih
    obtain ⟨node, found, listed⟩ := reads
    -- The graph's node is the one for the reader, as no other in scope has its leaf name.
    obtain ⟨other, isPart, named, rfl⟩ := (mirrors.node?_iff _ _).1 found
    have equal : other = reader := mirrors.apart (mirrors.within isPart)
      (mirrors.drawsOn_closed inside draws) (named.trans same.symm)
    obtain ⟨source, reads, leaf⟩ := (mem_sources_nodeFor_iff vocabulary network other).1 listed
    exact ⟨source, draws.tail (equal ▸ reads), leaf⟩

/-- Nodes of the graph are those of paths in its part. -/
theorem exists_paths (mirrors : Mirrors vocabulary network scope part graph) {nodes : List Node}
    (held : ∀ node ∈ nodes, graph.node? node.name = some node) :
    ∃ paths : List String, nodes = paths.map (nodeFor vocabulary network) ∧ ∀ path ∈ paths, path ∈ part := by
  induction nodes with
  | nil => exact ⟨[], rfl, by simp⟩
  | cons node rest ih =>
    obtain ⟨paths, same, inside⟩ := ih fun other later => held other (List.mem_cons_of_mem _ later)
    -- The path of the head is put in front of those of the others.
    obtain ⟨path, isPart, _, rfl⟩ := (mirrors.node?_iff _ _).1 (held node List.mem_cons_self)
    exact ⟨path :: paths, by rw [same, List.map_cons], by simpa using ⟨isPart, inside⟩⟩

/-- A path whose leaf name is that of a node for some paths is one of these. -/
theorem mem_of_leaf (mirrors : Mirrors vocabulary network scope part graph) {paths : List String}
    (inside : ∀ path ∈ paths, path ∈ part) {path : String} (isScope : path ∈ scope)
    (named : NodePath.leaf path ∈ (paths.map (nodeFor vocabulary network)).map (·.name)) : path ∈ paths := by
  -- The node with the leaf name is for another listed path, which can only be the same.
  obtain ⟨other, listed, same⟩ : ∃ other ∈ paths, NodePath.leaf other = NodePath.leaf path := by
    simpa using named
  exact mirrors.apart (mirrors.within (inside other listed)) isScope same ▸ listed

/-- What a network node reads comes in front of it where its document nodes are ordered. -/
theorem fed (mirrors : Mirrors vocabulary network scope part graph) {front back : List String}
    {path : String}
    (inside : ∀ other ∈ front ++ path :: back, other ∈ part)
    (ordered : graph.Ordered ((front ++ path :: back).map (nodeFor vocabulary network))) :
    ∀ source, network.Reads path source → source ∈ front := by
  intro source reads
  have before := ordered.fed (by rw [List.map_append, List.map_cons]) (NodePath.leaf source)
    ((mem_sources_nodeFor_iff vocabulary network path).2 ⟨source, reads, rfl⟩)
  have reader : path ∈ scope := mirrors.within (inside path (by simp))
  -- The source is in scope, where its leaf name is no other node's.
  exact mirrors.mem_of_leaf (fun other listed => inside other (List.mem_append_left _ listed))
    (mirrors.closed path reader source reads) before

/-- An order of evaluation in the graph is one of the network: it lists exactly what the root draws on, each
node once and after all that it reads, and stays within the part. -/
theorem evaluationOrder_ok (mirrors : Mirrors vocabulary network scope part graph) {root : String}
    {order : List Node} (isPart : root ∈ part)
    (evaluates : graph.evaluationOrder (nodeFor vocabulary network root) = .ok order) :
    ∃ paths : List String, order = paths.map (nodeFor vocabulary network) ∧ paths.Nodup ∧
      (∀ path, path ∈ paths ↔ network.DrawsOn root path) ∧
      (∀ front path back, paths = front ++ path :: back →
        ∀ source, network.Reads path source → source ∈ front) ∧
      ∀ path ∈ paths, path ∈ part := by
  have found : graph.node? (nodeFor vocabulary network root).name =
      some (nodeFor vocabulary network root) := by
    rw [name_nodeFor]
    exact mirrors.node?_leaf isPart
  obtain ⟨ordered, last, feeds⟩ := Graph.evaluationOrder_ok found evaluates
  obtain ⟨paths, rfl, inside⟩ := mirrors.exists_paths fun node => ordered.node?_eq
  have fed : ∀ front path back, paths = front ++ path :: back →
      ∀ source, network.Reads path source → source ∈ front := by
    rintro front path back rfl
    exact mirrors.fed inside ordered
  refine ⟨paths, rfl, ?_, fun path => ⟨fun listed => ?_, fun draws => ?_⟩, fed, inside⟩
  · -- Names are listed once, so paths are.
    have names := ordered.nodup
    rw [List.map_map] at names
    exact List.Nodup.of_map _ names
  · have reaches := feeds _ (List.mem_map_of_mem listed)
    rw [name_nodeFor, name_nodeFor] at reaches
    obtain ⟨source, draws, same⟩ := mirrors.drawsOn_of_reads (mirrors.within isPart) reaches
    have equal := mirrors.apart (mirrors.drawsOn_closed (mirrors.within isPart) draws)
      (mirrors.within (inside path listed)) same
    exact equal ▸ draws
  · -- The root is listed, and so is what a listed node reads, in front of it.
    induction draws with
    | refl =>
      exact mirrors.mem_of_leaf inside (mirrors.within isPart) (List.mem_map.2 ⟨_, last, name_nodeFor ..⟩)
    | tail _ reads ih =>
      obtain ⟨front, back, split⟩ := List.append_of_mem ih
      rw [split]
      exact List.mem_append_left _ (fed front _ back split _ reads)

end Mirrors

section built

variable {vocabulary : Vocabulary} {network : Network} {terminal : String} {names : List String}

/-- What a reached node reads is reached. -/
theorem reached_of_reads {path source : String} (reached : Reached network terminal names path)
    (reads : network.Reads path source) : Reached network terminal names source := by
  -- One more reading is put at the end of the chain.
  obtain ⟨name, inside, connection, connected, present, draws⟩ := reached
  exact ⟨name, inside, connection, connected, present, draws.tail reads⟩

/-- A graph with the group of a key mirrors the reached nodes of that key. -/
theorem mirrors_of_group {material key : String} {paths : List String} {graph : Graph}
    (apart : Set.InjOn NodePath.leaf {path | Reached network terminal names path})
    (listed : ∀ path, path ∈ paths ↔ Reached network terminal names path)
    (grouped : graph.nodes = BuiltDocument.group vocabulary network material paths key) :
    Mirrors vocabulary network {path | Reached network terminal names path}
      {path | Reached network terminal names path ∧ graphKey material path = key} graph := by
  refine ⟨fun path inside => inside.1, fun path reached source => reached_of_reads reached, apart,
    fun name node => ?_⟩
  -- The graph's nodes are those for the listed paths of the key.
  have held : ∀ node, node ∈ graph.nodes ↔ ∃ path, (Reached network terminal names path ∧
      graphKey material path = key) ∧ nodeFor vocabulary network path = node := by
    simp [grouped, BuiltDocument.group, listed]
  constructor
  · intro found
    obtain ⟨path, inside, rfl⟩ := (held node).1 (List.mem_of_find?_eq_some found)
    exact ⟨path, inside, by simpa using List.find?_some found, rfl⟩
  · rintro ⟨path, inside, named, rfl⟩
    have there := (held _).2 ⟨path, inside, rfl⟩
    cases found : graph.node? name with
    | none =>
      have missing := List.find?_eq_none.1 found _ there
      simp [named] at missing
    | some other =>
      -- The first node of the name is the one for the path, as leaf names tell paths apart.
      obtain ⟨path', inside', rfl⟩ := (held other).1 (List.mem_of_find?_eq_some found)
      have named' : NodePath.leaf path' = name := by simpa using List.find?_some found
      rw [apart inside'.1 inside.1 (named'.trans named.symm)]

/-- Of grouped graphs, the one at the position of a key mirrors the reached nodes of that key. -/
theorem exists_mirrors {material key : String} {paths keys : List String} {document : Document}
    {position : Nat}
    (apart : Set.InjOn NodePath.leaf {path | Reached network terminal names path})
    (listed : ∀ path, path ∈ paths ↔ Reached network terminal names path)
    (grouped : document.graphs.map (·.nodes) =
      keys.map (BuiltDocument.group vocabulary network material paths))
    (isKey : keys[position]? = some key) :
    ∃ graph, document.graphs[position]? = some graph ∧
      Mirrors vocabulary network {path | Reached network terminal names path}
        {path | Reached network terminal names path ∧ graphKey material path = key} graph := by
  -- The graphs stand in the order of the keys.
  have nodes := congrArg (·[position]?) grouped
  simp only [List.getElem?_map, isKey, Option.map_some] at nodes
  obtain ⟨graph, there, same⟩ := Option.map_eq_some_iff.1 nodes
  exact ⟨graph, there, mirrors_of_group apart listed same⟩

/-- Where leaf names tell the reached nodes apart, each of them is found by its leaf name under any hint,
in a graph that mirrors the reached nodes of its key. -/
theorem build_mirrors (vocabulary : Vocabulary)
    (apart : Set.InjOn NodePath.leaf {path | Reached network terminal names path}) {path : String}
    (reached : Reached network terminal names path) (hint : String) :
    ∃ graph, (build vocabulary network terminal names).document.findNode? hint (NodePath.leaf path) =
        some (graph, nodeFor vocabulary network path) ∧
      Mirrors vocabulary network {other | Reached network terminal names other}
        {other | Reached network terminal names other ∧
          graphKey (NodePath.materialName network.materialPath) other =
            graphKey (NodePath.materialName network.materialPath) path} graph := by
  obtain ⟨paths, keys, _, distinct, listed, keyed, grouped⟩ :=
    build_graphs vocabulary network terminal names
  generalize (build vocabulary network terminal names).document = document at grouped ⊢
  -- The key of the path is at some position, and the graph there mirrors its group.
  obtain ⟨position, isKey⟩ := List.mem_iff_getElem?.1 (keyed path ((listed path).2 reached))
  obtain ⟨graph, there, mirrors⟩ := exists_mirrors apart listed grouped isKey
  refine ⟨graph, findNode?_of_only hint there (mirrors.node?_leaf ⟨reached, rfl⟩) ?_, mirrors⟩
  -- Another graph with the leaf name would be of the path's key, which is at one position only.
  rintro other ⟨graph', there', inside⟩
  have lengths : document.graphs.length = keys.length := by simpa using congrArg List.length grouped
  have bound : other < keys.length := lengths ▸ (List.getElem?_eq_some_iff.1 there').1
  have isOther : keys[other]? = some keys[other] := List.getElem?_eq_getElem bound
  obtain ⟨_, there'', mirrors'⟩ := exists_mirrors apart listed grouped isOther
  cases there'.symm.trans there''
  obtain ⟨node, found⟩ := Option.isSome_iff_exists.1 inside
  obtain ⟨path', ⟨reached', key'⟩, named, _⟩ := (mirrors'.node?_iff _ _).1 found
  cases apart reached' reached named
  exact (List.getElem?_inj bound distinct).1 (isOther.trans (key' ▸ isKey.symm))

end built

end Document

end ShadeBake
