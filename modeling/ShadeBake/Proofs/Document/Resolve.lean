import Mathlib.Data.List.Nodup
import ShadeBake.Proofs.Document.Lookup
import ShadeBake.Proofs.Document.Mirror

/-! Which node a connected input of a built document leads to. Connections are leaf names that are looked up
in the reader's graph, so that a node of the source's leaf there is taken for the source, whatever its path. -/

namespace ShadeBake

/-- The first element of a list with a property is the one with it that stands before all others. -/
theorem find?_eq_some_iff_idxOf {list : List String} {holds : String → Bool} {first : String} :
    list.find? holds = some first ↔ first ∈ list ∧ holds first = true ∧
      ∀ other ∈ list, holds other = true → list.idxOf first ≤ list.idxOf other := by
  induction list with
  | nil => simp
  | cons head rest ih =>
    rw [List.find?_cons]
    cases here : holds head with
    -- The head has it, and stands before all.
    | true =>
      simp only [Option.some.injEq]
      constructor
      · rintro rfl
        exact ⟨List.mem_cons_self, here, fun other _ _ => by simp⟩
      · rintro ⟨_, _, least⟩
        have position := least head List.mem_cons_self here
        rw [List.idxOf_cons_self, Nat.le_zero] at position
        by_contra apart
        rw [List.idxOf_cons_ne _ apart] at position
        simp at position
    -- The head lacks it, so only the rest matters.
    | false =>
      have apart : ∀ other, holds other = true → head ≠ other := fun other has same => by
        simp [← same, here] at has
      simp only [ih]
      constructor
      · rintro ⟨inside, has, least⟩
        refine ⟨List.mem_cons_of_mem _ inside, has, fun other listed has' => ?_⟩
        rw [List.idxOf_cons_ne _ (apart _ has), List.idxOf_cons_ne _ (apart _ has')]
        exact Nat.succ_le_succ
          (least other ((List.mem_cons.1 listed).resolve_left (Ne.symm (apart _ has'))) has')
      · rintro ⟨inside, has, least⟩
        refine ⟨(List.mem_cons.1 inside).resolve_left (Ne.symm (apart _ has)), has,
          fun other listed has' => ?_⟩
        have before := least other (List.mem_cons_of_mem _ listed) has'
        rw [List.idxOf_cons_ne _ (apart _ has), List.idxOf_cons_ne _ (apart _ has')] at before
        exact Nat.le_of_succ_le_succ before

/-- The first element with a property is a given one or there is none exactly if that one has the property and
stands before all others with it, or there are no others with it. -/
theorem find?_eq_or_none_iff {list : List String} {holds : String → Bool} {given : String}
    (listed : given ∈ list) :
    (∀ first, list.find? holds = some first → first = given) ↔
      ∀ other ∈ list, holds other = true → other ≠ given →
        holds given = true ∧ list.idxOf given < list.idxOf other := by
  constructor
  · intro only other inside has apart
    obtain ⟨first, found⟩ := Option.isSome_iff_exists.1 (List.find?_isSome.2 ⟨other, inside, has⟩)
    obtain rfl := only first found
    obtain ⟨_, has', least⟩ := find?_eq_some_iff_idxOf.1 found
    -- Two elements do not stand at one position.
    refine ⟨has', Nat.lt_of_le_of_ne (least other inside has) fun same => apart ?_⟩
    exact ((List.idxOf_inj inside).1 same.symm)
  · intro before first found
    obtain ⟨inside, has, least⟩ := find?_eq_some_iff_idxOf.1 found
    by_contra apart
    obtain ⟨has', position⟩ := before first inside has apart
    exact absurd (least given listed has') (Nat.not_le.2 position)

namespace Document

open DocumentBuilder (Reached)

/-- The first visited path of a graph's key with a leaf name, if there is one. -/
def resolved? (material : String) (visited : List String) (reader leaf : String) :
    Option String :=
  visited.find? fun other => graphKey material other = graphKey material reader ∧ NodePath.leaf other = leaf

/-- A resolved path was visited, and has the key and the leaf name. -/
theorem of_resolved? {material : String} {visited : List String} {reader leaf other : String}
    (found : resolved? material visited reader leaf = some other) :
    other ∈ visited ∧ graphKey material other = graphKey material reader ∧ NodePath.leaf other = leaf := by
  -- The search is for the key and the leaf name, among the visited paths.
  unfold resolved? at found
  exact ⟨List.mem_of_find?_eq_some found, by simpa using List.find?_some found⟩

/-- A name is looked up in the graph of a held path as the first held path of the graph's key that has it for
a leaf. -/
theorem node?_graphOf {vocabulary : Vocabulary} {network : Network} {material : String}
    {built : BuiltDocument} {paths : List String}
    (holds : built.Holds vocabulary network material paths) {path : String} (inside : path ∈ paths)
    (name : String) :
    ∃ graph, built.graphOf? material path = some graph ∧ nodeFor vocabulary network path ∈ graph.nodes ∧
      graph.node? name =
        (resolved? material paths path name).map (nodeFor vocabulary network) := by
  obtain ⟨graph, there⟩ := holds.exists_graphOf inside
  have key := List.getElem?_idxOf (holds.keyed path inside)
  -- The graph stands where its key does, and holds the nodes of that key.
  have nodes := holds.getElem? (built.graphKeys.idxOf (graphKey material path))
  have node := holds.node?_getElem? (built.graphKeys.idxOf (graphKey material path)) name
  have there' : built.document.graphs[built.graphKeys.idxOf (graphKey material path)]? = some graph := there
  rw [there', key, Option.map_some, Option.map_some, Option.some.injEq] at nodes
  refine ⟨graph, there, ?_, ?_⟩
  · rw [nodes]
    exact List.mem_map_of_mem (List.mem_filter.2 ⟨inside, decide_eq_true rfl⟩)
  · rw [there', key, Option.bind_some, List.find?_filter] at node
    rw [node, resolved?]
    simp only [Option.some.injEq, decide_eq_true_eq, eq_comm (a := graphKey material path)]

end Document

/-- Where a connected input of a document node leads. The node of a path that is reached stands in the graph
of the path's key, and its input names the leaf of the source; looked up in that graph, this leads to the node
of the first visited path with that key and leaf, or to none if there is no such path. It leads to no other
node than the source's exactly if every other such path was visited after the source and the source has the
same key. Where keys and leaves together tell paths apart, this means that the source has the same key or that
no path of the reader's key has the source's leaf. -/
theorem Document.build_resolves (vocabulary : Vocabulary) (network : Network) (terminal : String)
    (names : List String) {path : String}
    (reached : DocumentBuilder.Reached network terminal names path) {name : String}
    {connection : Connection} (connected : network.input? path name = some connection)
    (present : network.hasNode connection.source = true) :
    let built := build vocabulary network terminal names
    let material := NodePath.materialName network.materialPath
    let visited := DocumentBuilder.visited network terminal [] names
    let resolved := resolved? material visited path (NodePath.leaf connection.source)
    let rival := fun other => DocumentBuilder.Reached network terminal names other ∧
      graphKey material other = graphKey material path ∧
      NodePath.leaf other = NodePath.leaf connection.source
    ((nodeFor vocabulary network path).input? name).bind (·.node) =
      some (NodePath.leaf connection.source) ∧
    (∃ graph, built.graphOf? material path = some graph ∧ nodeFor vocabulary network path ∈ graph.nodes ∧
      graph.node? (NodePath.leaf connection.source) = resolved.map (nodeFor vocabulary network)) ∧
    (∀ other, resolved = some other → rival other) ∧ (resolved = none ↔ ∀ other, ¬rival other) ∧
    ((∀ other, resolved = some other → other = connection.source) ↔
      ∀ other, rival other → other ≠ connection.source →
        graphKey material connection.source = graphKey material path ∧
          visited.idxOf connection.source < visited.idxOf other) ∧
    ((∀ first second, DocumentBuilder.Reached network terminal names first →
        DocumentBuilder.Reached network terminal names second →
        graphKey material first = graphKey material second → NodePath.leaf first = NodePath.leaf second →
        first = second) →
      ((∀ other, resolved = some other → other = connection.source) ↔
        graphKey material connection.source = graphKey material path ∨ ∀ other, ¬rival other)) := by
  intro built material visited resolved rival
  obtain ⟨holds, _, visits⟩ := build_holds vocabulary network terminal names
  have source := (visits connection.source).2
    (reached_of_reads reached ⟨present, name, connection, connected, rfl⟩)
  have rivals : ∀ other, rival other ↔ other ∈ visited ∧
      (graphKey material other = graphKey material path ∧
        NodePath.leaf other = NodePath.leaf connection.source) :=
    fun other => and_congr_left' (visits other).symm
  -- A search finds the source first exactly if all rivals come behind it.
  have order : (∀ other, resolved = some other → other = connection.source) ↔
      ∀ other, rival other → other ≠ connection.source →
        graphKey material connection.source = graphKey material path ∧
          visited.idxOf connection.source < visited.idxOf other := by
    refine (find?_eq_or_none_iff source).trans (forall_congr' fun other => ?_)
    simp only [rivals, decide_eq_true_eq, and_imp, and_true]
    exact Iff.rfl
  refine ⟨?_, node?_graphOf holds ((visits path).2 reached) _, fun other found => ?_, ?_, order, fun unique => ?_⟩
  · rw [input?_nodeFor vocabulary network path connected present]
    rfl
  · exact (rivals other).2 (of_resolved? found)
  · refine List.find?_eq_none.trans (forall_congr' fun other => ?_)
    rw [rivals]
    simp only [decide_eq_true_eq, not_and]
  · rw [order]
    constructor
    -- A rival of another key than the source's is another path.
    · intro before
      by_cases same : graphKey material connection.source = graphKey material path
      · exact .inl same
      · refine .inr fun other other_rival => same ?_
        refine (before other other_rival fun equal => same ?_).1
        exact equal ▸ other_rival.2.1
    · rintro (same | none) other other_rival apart
      · exact absurd (unique other connection.source other_rival.1 ((visits _).1 source)
          (other_rival.2.1.trans same.symm) other_rival.2.2) apart
      · exact absurd other_rival (none other)

namespace Document.Crossed

/-- A material whose surface reads a node that reads two nodes of one leaf, one of them beside it. -/
def network : Network where
  materialPath := "/M"
  nodes := Dict.ofList [
    ("/M/A/c", ⟨"red", Dict.empty, Dict.empty⟩),
    ("/M/A/p", ⟨"mix", Dict.empty, Dict.ofList [("in1", ⟨"/M/B/c", "out"⟩), ("in2", ⟨"/M/A/c", "out"⟩)]⟩),
    ("/M/B/c", ⟨"green", Dict.empty, Dict.empty⟩),
    ("/M/t", ⟨"surface", Dict.empty, Dict.ofList [("base", ⟨"/M/A/p", "out"⟩)]⟩)]
  terminals := Dict.empty

/-- No definition at all. -/
def vocabulary : Vocabulary := ⟨Registry.empty, DefinitionLibrary.empty⟩

/-- The visit comes by the three nodes behind the surface. -/
theorem visited : DocumentBuilder.visited network "/M/t" [] ["base"] = ["/M/A/p", "/M/A/c", "/M/B/c"] := by
  -- The traversal is evaluated.
  cbv

/-- Parents and leaves tell the nodes apart. The input that reads the node in the other graph leads to the one
beside the reader all the same. -/
theorem resolves_other :
    (∀ first second, DocumentBuilder.Reached network "/M/t" ["base"] first →
      DocumentBuilder.Reached network "/M/t" ["base"] second →
      NodePath.parent first = NodePath.parent second → NodePath.leaf first = NodePath.leaf second →
      first = second) ∧
    DocumentBuilder.Reached network "/M/t" ["base"] "/M/A/p" ∧
    network.input? "/M/A/p" "in1" = some ⟨"/M/B/c", "out"⟩ ∧ network.hasNode "/M/B/c" = true ∧
    (nodeFor vocabulary network "/M/B/c").definition = some "green" ∧
    ∃ graph node, (build vocabulary network "/M/t" ["base"]).graphOf? "M" "/M/A/p" = some graph ∧
      nodeFor vocabulary network "/M/A/p" ∈ graph.nodes ∧
      ((nodeFor vocabulary network "/M/A/p").input? "in1").bind (·.node) = some node.name ∧
      graph.node? node.name = some node ∧ node.definition = some "red" := by
  -- Three nodes are visited, and the one of the reader's own graph has the leaf name.
  obtain ⟨_, _, visits⟩ := build_holds vocabulary network "/M/t" ["base"]
  have reached : DocumentBuilder.Reached network "/M/t" ["base"] "/M/A/p" :=
    ⟨"base", List.mem_cons_self, ⟨"/M/A/p", "out"⟩, by decide, by decide, .refl⟩
  have unique : ∀ first ∈ ["/M/A/p", "/M/A/c", "/M/B/c"], ∀ second ∈ ["/M/A/p", "/M/A/c", "/M/B/c"],
      NodePath.parent first = NodePath.parent second → NodePath.leaf first = NodePath.leaf second →
      first = second := by
    decide
  obtain ⟨names, ⟨graph, there, inside, node⟩, _⟩ := build_resolves vocabulary network "/M/t" ["base"]
    reached (by decide : network.input? "/M/A/p" "in1" = some ⟨"/M/B/c", "out"⟩) (by decide)
  have material : NodePath.materialName network.materialPath = "M" := by decide
  -- The name of the source is that of a node in the reader's own graph.
  have other : resolved? "M" ["/M/A/p", "/M/A/c", "/M/B/c"] "/M/A/p" (NodePath.leaf "/M/B/c") =
      some "/M/A/c" := by
    decide
  rw [material] at there
  rw [material, visited, other, Option.map_some] at node
  have leaf : (nodeFor vocabulary network "/M/A/c").name = NodePath.leaf "/M/B/c" := by
    rw [name_nodeFor]
    decide
  refine ⟨fun first second first_reached second_reached => ?_, reached, by decide, by decide, by cbv, graph,
    nodeFor vocabulary network "/M/A/c", there, inside, leaf ▸ names, leaf ▸ node, by cbv⟩
  exact unique first (visited ▸ (visits first).2 first_reached) second
    (visited ▸ (visits second).2 second_reached)

end Document.Crossed

end ShadeBake
