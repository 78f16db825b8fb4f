import Mathlib
import ShadeBake.Proofs.Document.Locate
import ShadeBake.Proofs.Document.Naming

/-! The node that a lookup finds in a built document is the first one of its name in the order of the search.
-/

namespace ShadeBake

namespace Document

/-! ### The order of a search -/

/-- The positions of the graphs in the order in which a lookup with a hint comes by them: the hinted graph,
the last one, and then all. -/
def searchPositions (document : Document) (hint : String) : List Nat :=
  (document.graphs.findIdx? (·.name = hint)).toList ++
    (if document.graphs = [] then [] else [document.graphs.length - 1]) ++
      List.range document.graphs.length

/-- The first position with a property is the first one of the positions that has it. -/
theorem findIdx?_eq_find?_range {α : Type} (holds : α → Bool) (list : List α) :
    list.findIdx? holds = (List.range list.length).find? fun position => (list[position]?).any holds := by
  induction list with
  | nil => rfl
  | cons head rest ih =>
    rw [List.findIdx?_cons, List.length_cons, List.range_succ_eq_map, List.find?_cons]
    cases first : holds head with
    | true => simp [first]
    -- The positions behind the head are those of the rest, moved by one.
    | false =>
      rw [List.find?_map, ih]
      simp [first]

/-- A lookup takes the first graph that holds the name in the order of the search. -/
theorem findGraph?_eq_find? (document : Document) (hint name : String) :
    document.findGraph? hint name = (document.searchPositions hint).find? fun position =>
      (document.graphs[position]?).any fun graph => (graph.node? name).isSome := by
  unfold findGraph? searchPositions
  simp only [Option.orElse_eq_orElse, Option.orElse_eq_or, List.find?_append, Option.or_assoc]
  rw [findIdx?_eq_find?_range fun graph : Graph => (graph.node? name).isSome]
  congr 1
  -- The hinted graph is taken if it holds the name.
  · cases document.graphs.findIdx? (·.name = hint) with
    | none => rfl
    | some position =>
      simp only [Option.filter, Option.toList_some, List.find?_cons, List.find?_nil]
      split
      · rename_i inside
        rw [inside]
      · rename_i outside
        simp [outside]
  · congr 1
    -- Only where there is a graph there is a last one.
    by_cases none : document.graphs = []
    · simp [none]
    · rw [List.getLast?_eq_getElem?]
      simp only [none, if_false, List.find?_cons, List.find?_nil]
      split
      · rename_i inside
        rw [inside]
      · rename_i outside
        simp [outside]

end Document

/-- Where a search by one test and a search by partial results agree step by step, they end in the same. -/
theorem bind_find?_eq_bind_findSome? {α β γ : Type} (list : List α) (test : α → Bool)
    (result : α → Option β) (first : α → Option γ) (second : β → Option γ)
    (tests : ∀ a ∈ list, test a = (result a).isSome)
    (agrees : ∀ a ∈ list, ∀ b, result a = some b → first a = second b) :
    (list.find? test).bind first = (list.findSome? result).bind second := by
  induction list with
  | nil => rfl
  | cons head rest ih =>
    have here := tests head List.mem_cons_self
    rw [List.find?_cons, List.findSome?_cons]
    cases partially : result head with
    -- The head fails the test too, and the search goes on.
    | none =>
      simp only [here, partially, Option.isSome_none]
      exact ih (fun a inside => tests a (List.mem_cons_of_mem _ inside))
        fun a inside => agrees a (List.mem_cons_of_mem _ inside)
    | some b =>
      simp only [here, partially, Option.isSome_some, Option.bind_some]
      exact agrees head List.mem_cons_self b partially

namespace BuiltDocument

open Document (nodeFor graphKey)

variable {vocabulary : Vocabulary} {network : Network} {material : String} {built : BuiltDocument}
  {paths : List String}

/-- The paths in the order in which a lookup with a hint comes by their nodes: those in the hinted graph,
those in the last one, and then all, graph by graph. -/
def searchOrder (built : BuiltDocument) (material : String) (paths : List String) (hint : String) :
    List String :=
  (built.document.searchPositions hint).flatMap fun position =>
    paths.filter fun path => built.graphKeys[position]? = some (graphKey material path)

/-- The graph that a path's node is in. -/
def graphOf? (built : BuiltDocument) (material path : String) : Option Document.Graph :=
  built.document.graphs[built.graphKeys.idxOf (graphKey material path)]?

/-- A position with a graph has the key of that, and the nodes of the graph are those of the key. -/
theorem Holds.getElem? (holds : built.Holds vocabulary network material paths) (position : Nat) :
    (built.document.graphs[position]?).map (·.nodes) =
      (built.graphKeys[position]?).map (group vocabulary network material paths) := by
  -- The lists of graphs and of keys go position by position.
  rw [← List.getElem?_map, holds.grouped, List.getElem?_map]

/-- The node of a name in the graph at a position is that of the first path there with that leaf. -/
theorem Holds.node?_getElem? (holds : built.Holds vocabulary network material paths) (position : Nat)
    (name : String) :
    (built.document.graphs[position]?).bind (·.node? name) =
      ((paths.filter fun path => built.graphKeys[position]? = some (graphKey material path)).find?
        (NodePath.leaf · = name)).map (nodeFor vocabulary network) := by
  have nodes := holds.getElem? position
  cases there : built.document.graphs[position]? with
  | none =>
    -- Without a graph there is no key either, so no path is at the position.
    rw [there, Option.map_none, eq_comm, Option.map_eq_none_iff] at nodes
    simp [nodes]
  | some graph =>
    rw [there, Option.map_some, eq_comm, Option.map_eq_some_iff] at nodes
    obtain ⟨key, keyed, same⟩ := nodes
    simp only [Option.bind_some, Document.Graph.node?, ← same, group, List.find?_map, keyed,
      Option.some.injEq, eq_comm (a := key)]
    congr 2
    funext path
    simp

/-- A lookup finds the node of the first path with that leaf in the order of the search, in its graph. -/
theorem Holds.findNode?_eq (holds : built.Holds vocabulary network material paths) (hint name : String) :
    built.document.findNode? hint name =
      ((built.searchOrder material paths hint).find? (NodePath.leaf · = name)).bind fun found =>
        (built.graphOf? material found).map (·, nodeFor vocabulary network found) := by
  unfold Document.findNode? searchOrder
  -- Position by position, a graph holds the name exactly if a path of that leaf is at the position.
  rw [Document.findGraph?_eq_find?, List.find?_flatMap]
  refine bind_find?_eq_bind_findSome? _ _ _ _ _ (fun position _ => ?_) fun position _ found here => ?_
  · have nodes := congrArg Option.isSome (holds.node?_getElem? position name)
    rw [Option.isSome_map] at nodes
    rw [← nodes]
    cases built.document.graphs[position]? with
    | none => rfl
    | some graph => rfl
  -- The path that is found has the key of the position, and no other position has that.
  · have node := holds.node?_getElem? position name
    rw [here, Option.map_some] at node
    have keyed := of_decide_eq_true (List.mem_filter.1 (List.mem_of_find?_eq_some here)).2
    obtain ⟨bound, same⟩ := List.getElem?_eq_some_iff.1 keyed
    have index : built.graphKeys.idxOf (graphKey material found) = position := by
      rw [← same]
      exact holds.distinct.idxOf_getElem position bound
    rw [graphOf?, index]
    obtain ⟨graph, there, inside⟩ := Option.bind_eq_some_iff.1 node
    simp [there, inside]

/-- Every path that is held has a graph. -/
theorem Holds.exists_graphOf (holds : built.Holds vocabulary network material paths) {path : String}
    (inside : path ∈ paths) : ∃ graph, built.graphOf? material path = some graph := by
  -- The key of the path is one of the keys, and there is a graph for each.
  have nodes := holds.getElem? (built.graphKeys.idxOf (graphKey material path))
  rw [List.getElem?_idxOf (holds.keyed path inside), Option.map_some] at nodes
  obtain ⟨graph, there, _⟩ := Option.map_eq_some_iff.1 nodes
  exact ⟨graph, there⟩

/-- Paths are searched exactly if they are held. -/
theorem Holds.mem_searchOrder_iff (holds : built.Holds vocabulary network material paths) {hint path : String} :
    path ∈ built.searchOrder material paths hint ↔ path ∈ paths := by
  simp only [searchOrder, List.mem_flatMap, List.mem_filter, decide_eq_true_eq]
  constructor
  · rintro ⟨_, _, inside, _⟩
    exact inside
  · intro inside
    -- In the end all positions are searched, that of the path's own key among them.
    obtain ⟨graph, there⟩ := holds.exists_graphOf inside
    have bound := (List.getElem?_eq_some_iff.1 there).1
    exact ⟨_, List.mem_append_right _ (List.mem_range.2 bound), inside,
      List.getElem?_idxOf (holds.keyed path inside)⟩

/-- A path whose graph has the hint for a name comes first of all those of its leaf, if no other path of that
leaf shares its graph. -/
theorem Holds.find?_searchOrder_of_named (holds : built.Holds vocabulary network material paths)
    (named : built.document.WellNamed) {path hint : String} (inside : path ∈ paths)
    {own : Document.Graph} (there : built.graphOf? material path = some own) (hinted : own.name = hint)
    (alone : ∀ other ∈ paths, graphKey material other = graphKey material path →
      NodePath.leaf other = NodePath.leaf path → other = path) :
    (built.searchOrder material paths hint).find? (NodePath.leaf · = NodePath.leaf path) = some path := by
  obtain ⟨bound, isOwn⟩ := List.getElem?_eq_some_iff.1 there
  -- No other graph has the name, so the hint leads to the path's own.
  have position : built.document.graphs.findIdx? (·.name = hint) =
      some (built.graphKeys.idxOf (graphKey material path)) := by
    refine List.findIdx?_eq_some_iff_getElem.2 ⟨bound, by simp [isOwn, hinted], fun before less => ?_⟩
    have apart := List.nodup_iff_getElem?_ne_getElem?.1 named.1 before _ less (by simpa using bound)
    rw [List.getElem?_map, List.getElem?_map, List.getElem?_eq_getElem (Nat.lt_trans less bound),
      List.getElem?_eq_getElem bound, isOwn] at apart
    simpa [hinted] using apart
  have key := List.getElem?_idxOf (holds.keyed path inside)
  unfold searchOrder Document.searchPositions
  rw [position]
  simp only [Option.toList_some, List.cons_append, List.flatMap_cons, key, Option.some.injEq,
    List.find?_append]
  -- The first of that leaf in the graph has the key of the path, and so it is the path.
  obtain ⟨found, here⟩ := Option.isSome_iff_exists.1 (List.find?_isSome.2
    ⟨path, List.mem_filter.2 ⟨inside, decide_eq_true rfl⟩, decide_eq_true rfl⟩ :
      ((paths.filter fun other => graphKey material path = graphKey material other).find?
        (NodePath.leaf · = NodePath.leaf path)).isSome = true)
  obtain ⟨held, keyed⟩ := List.mem_filter.1 (List.mem_of_find?_eq_some here)
  have same := alone found held (of_decide_eq_true keyed).symm (by simpa using List.find?_some here)
  rw [here, same, Option.some_or]

end BuiltDocument

/-- What a lookup finds in a built document for a path that was reached, with the component above the path's
last one for a hint: the node of the first path of that leaf in the order of the search, in its graph. That
is the path itself if it is the only one of its leaf, and also if its graph has the hint for a name and no
other path of its leaf shares that graph. -/
theorem Document.findNode?_build (vocabulary : Vocabulary) (network : Network) (terminal : String)
    (names : List String) {path : String}
    (reached : DocumentBuilder.Reached network terminal names path) :
    let built := build vocabulary network terminal names
    let material := NodePath.materialName network.materialPath
    let order := built.searchOrder material (DocumentBuilder.visited network terminal [] names)
      (NodePath.parent path)
    ∃ found graph, order.find? (NodePath.leaf · = NodePath.leaf path) = some found ∧
      DocumentBuilder.Reached network terminal names found ∧ NodePath.leaf found = NodePath.leaf path ∧
      built.graphOf? material found = some graph ∧
      built.document.findNode? (NodePath.parent path) (NodePath.leaf path) =
        some (graph, nodeFor vocabulary network found) ∧
      ((∀ other, DocumentBuilder.Reached network terminal names other →
          NodePath.leaf other = NodePath.leaf path → other = path) → found = path) ∧
      ((built.graphOf? material path).map (·.name) = some (NodePath.parent path) →
        (∀ other, DocumentBuilder.Reached network terminal names other →
          graphKey material other = graphKey material path →
          NodePath.leaf other = NodePath.leaf path → other = path) → found = path) := by
  intro built material order
  obtain ⟨holds, _, visits⟩ := build_holds vocabulary network terminal names
  have named := build_wellNamed vocabulary network terminal names
  have inside := (visits path).2 reached
  -- The path is searched itself, so some path of its leaf is found.
  obtain ⟨found, first⟩ := Option.isSome_iff_exists.1 (List.find?_isSome.2
    ⟨path, holds.mem_searchOrder_iff.2 inside, decide_eq_true rfl⟩ :
      (order.find? (NodePath.leaf · = NodePath.leaf path)).isSome = true)
  have found_reached := (visits found).1 (holds.mem_searchOrder_iff.1 (List.mem_of_find?_eq_some first))
  have leaf : NodePath.leaf found = NodePath.leaf path := by simpa using List.find?_some first
  obtain ⟨graph, there⟩ := holds.exists_graphOf ((visits found).2 found_reached)
  refine ⟨found, graph, first, found_reached, leaf, there, ?_, fun only => only found found_reached leaf,
    fun hinted alone => ?_⟩
  · rw [holds.findNode?_eq, first, Option.bind_some, there, Option.map_some]
  -- The graph with the hint for a name comes first, so the path is the first one itself.
  · obtain ⟨own, its, name⟩ := Option.map_eq_some_iff.1 hinted
    have self := holds.find?_searchOrder_of_named named inside its name fun other held =>
      alone other ((visits other).1 held)
    exact Option.some.inj (first.symm.trans self)

namespace Document.Renamed

/-- A material with two nodes of one leaf, one of them below a component with the material's name. -/
def network : Network where
  materialPath := "/N"
  nodes := Dict.ofList [
    ("/M/N/c", ⟨"red", Dict.empty, Dict.empty⟩),
    ("/M/O/c", ⟨"green", Dict.empty, Dict.empty⟩),
    ("/N/t", ⟨"surface", Dict.empty, Dict.ofList [("base", ⟨"/M/N/c", "out"⟩),
      ("coat", ⟨"/M/O/c", "out"⟩)]⟩)]
  terminals := Dict.empty

/-- No definition at all. -/
def vocabulary : Vocabulary := ⟨Registry.empty, DefinitionLibrary.empty⟩

/-- The material has the name that the hint gives, so the graph has another one, and the lookup of the first
node finds the second in the last graph. -/
theorem finds_other :
    DocumentBuilder.Reached network "/N/t" ["base", "coat"] "/M/N/c" ∧
    (nodeFor vocabulary network "/M/N/c").definition = some "red" ∧
    ∃ graph node, node.definition = some "green" ∧
      (build vocabulary network "/N/t" ["base", "coat"]).document.findNode? (NodePath.parent "/M/N/c")
        (NodePath.leaf "/M/N/c") = some (graph, node) := by
  -- The search goes to the graph that the hint names, where another path has the leaf name.
  have reached : DocumentBuilder.Reached network "/N/t" ["base", "coat"] "/M/N/c" :=
    ⟨"base", List.mem_cons_self, ⟨"/M/N/c", "out"⟩, by decide, by decide, .refl⟩
  obtain ⟨found, graph, first, _, _, _, result, _⟩ :=
    findNode?_build vocabulary network "/N/t" ["base", "coat"] reached
  have other : ((build vocabulary network "/N/t" ["base", "coat"]).searchOrder
      (NodePath.materialName network.materialPath)
      (DocumentBuilder.visited network "/N/t" [] ["base", "coat"]) (NodePath.parent "/M/N/c")).find?
        (NodePath.leaf · = NodePath.leaf "/M/N/c") = some "/M/O/c" := by
    cbv
  cases other.symm.trans first
  exact ⟨reached, by cbv, graph, _, by cbv, result⟩

end Document.Renamed

end ShadeBake
