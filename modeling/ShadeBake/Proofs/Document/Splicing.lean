import ShadeBake.Proofs.Document.RoutingEffect
import ShadeBake.Proofs.Shader.Order

/-! Routing textures closes and opens no circle. What a texture node read its coordinates from it still reads, if
only through a remapper, and what comes in stands between the node and that, so that a chain of readers in the
graph afterwards is one in the graph before, with stops at nodes that came in. -/

namespace ShadeBake

open Document (Graph Node Input)

namespace Texture

/-- A reader reads no node. -/
@[simp] theorem sources_readerNode (context : TextureContext) (name primvar : String) :
    (readerNode context name primvar).sources = [] :=
  -- The one input of a reader is authored.
  rfl

/-- A remapper reads what the coordinates were read from. -/
@[simp] theorem mem_sources_remapperNode {context : TextureContext} {name source : String} {input : Input} :
    source ∈ (remapperNode context name (some input)).sources ↔ input.node = some source := by
  -- A remapper reads what its one input reads.
  simp [Node.sources, remapperNode]

/-- The coordinates of a node are read from where its own input for them is read, or else from its reader. -/
theorem node_coordinates {node : Node} {source : String} (isSource : (coordinates node).node = some source) :
    (node.input? "texcoord").bind (·.node) = some source ∨
      node.input? "texcoord" = none ∧ source = readerName node.name := by
  -- An input for coordinates is taken over, and without one the reader is read.
  unfold coordinates at isSource
  cases own : node.input? "texcoord" with
  | some input =>
    rw [own] at isSource
    exact .inl isSource
  | none =>
    rw [own] at isSource
    exact .inr ⟨rfl, (Option.some.inj isSource).symm⟩

end Texture

namespace Route

variable {context : TextureContext} {network : Network} {routes : List Route} {route : Route} {name : String}

/-- The name that a name stands for: a reader and a remapper stand for the node that they come in for, and any
other name stands for itself. -/
def origin (routes : List Route) (name : String) : String :=
  ((routes.map leaf).find? fun leaf =>
    name = Texture.readerName leaf ∨ name = Texture.remapperName leaf).getD name

/-- How far behind the name that it stands for a name comes: the remapper behind the node, and the reader behind
both. -/
def depth (routes : List Route) (name : String) : Nat :=
  if name ∈ routes.map fun route => Texture.readerName route.leaf then 2
  else if name ∈ routes.map fun route => Texture.remapperName route.leaf then 1
  else 0

/-- What comes in stands for the node that it comes in for. -/
theorem origin_of_comesIn (listed : route ∈ routes)
    (comesIn : name = Texture.readerName route.leaf ∨ name = Texture.remapperName route.leaf) :
    origin routes name = route.leaf := by
  -- Some leaf is found for the name.
  obtain ⟨leaf, found⟩ := Option.isSome_iff_exists.1 (List.find?_isSome.2
    ⟨route.leaf, List.mem_map_of_mem listed, decide_eq_true comesIn⟩ :
      ((routes.map leaf).find? fun leaf =>
        name = Texture.readerName leaf ∨ name = Texture.remapperName leaf).isSome = true)
  rw [origin, found, Option.getD_some]
  have same : name = Texture.readerName leaf ∨ name = Texture.remapperName leaf := by
    simpa using List.find?_some found
  -- Only one leaf has a given reader or remapper.
  rcases comesIn with rfl | rfl
  · rcases same with same | same
    · exact (Texture.readerName_inj same).symm
    · exact absurd same (Texture.readerName_ne_remapperName _ _)
  · rcases same with same | same
    · exact absurd same.symm (Texture.readerName_ne_remapperName _ _)
    · exact (Texture.remapperName_inj same).symm

/-- What does not come in stands for itself. -/
theorem origin_of_apart (apart : ∀ route ∈ routes,
    name ≠ Texture.readerName route.leaf ∧ name ≠ Texture.remapperName route.leaf) :
    origin routes name = name := by
  -- The search is for a route whose reader or remapper has the name, and there is none.
  have unfound : ((routes.map leaf).find? fun leaf =>
      name = Texture.readerName leaf ∨ name = Texture.remapperName leaf) = none := by
    refine List.find?_eq_none.2 fun leaf inside => ?_
    obtain ⟨route, listed, rfl⟩ := List.mem_map.1 inside
    simpa using apart route listed
  rw [origin, unfound, Option.getD_none]

/-- Readers come behind all else. -/
theorem depth_readerName (listed : route ∈ routes) : depth routes (Texture.readerName route.leaf) = 2 :=
  -- The name is in the list of those at depth two.
  if_pos (List.mem_map.2 ⟨route, listed, rfl⟩)

/-- Remappers come in between. -/
theorem depth_remapperName (listed : route ∈ routes) : depth routes (Texture.remapperName route.leaf) = 1 := by
  -- A remapper has no reader's name, so it is tested for as a remapper.
  rw [depth, if_neg fun isReader => ?_, if_pos (List.mem_map.2 ⟨route, listed, rfl⟩)]
  obtain ⟨other, _, same⟩ := List.mem_map.1 isReader
  exact Texture.readerName_ne_remapperName _ _ same

/-- What does not come in comes first. -/
theorem depth_of_apart (apart : ∀ route ∈ routes,
    name ≠ Texture.readerName route.leaf ∧ name ≠ Texture.remapperName route.leaf) :
    depth routes name = 0 := by
  -- A name that did not come in is neither a reader's nor a remapper's.
  rw [depth, if_neg fun isReader => ?_, if_neg fun isRemapper => ?_]
  · obtain ⟨route, listed, rfl⟩ := List.mem_map.1 isRemapper
    exact (apart route listed).2 rfl
  · obtain ⟨route, listed, rfl⟩ := List.mem_map.1 isReader
    exact (apart route listed).1 rfl

variable {node : Node}

/-- A node whose file is native reads its coordinates from its remapper. -/
theorem node_coordinatesInput (native : route.native context = true) :
    (route.coordinatesInput context node).node = some (Texture.remapperName node.name) := by
  -- A native texture reads its coordinates from the remapper.
  rw [coordinatesInput, if_pos native]
  rfl

/-- What a node reads for its file it still reads once it is routed. -/
theorem node_fileInput : (route.fileInput context network node).node = (node.input? "file").bind (·.node) := by
  -- Only the value of the file is changed, not what it reads.
  unfold fileInput
  cases node.input? "file" with
  | some _ => rfl
  | none => rfl

/-- A node that is routed reads what it read before but for its coordinates, which it reads from where they are
read or from its remapper. -/
theorem mem_sources_change {source : String} :
    source ∈ (route.change context network node).sources ↔
      (node.input? "file").bind (·.node) = some source ∨
      (route.coordinatesInput context node).node = some source ∨
      ∃ input ∈ node.otherInputs, input.node = some source := by
  -- A source is read by the file, by the coordinates, or by one of the inputs that are left alone.
  rw [Node.mem_sources_iff, input?_file_change, input?_texcoord_change, otherInputs_change, Option.bind_some,
    Option.bind_some, node_fileInput]

/-- A node whose file is native reads its remapper once it is routed. -/
theorem remapperName_mem_sources (native : route.native context = true) :
    Texture.remapperName node.name ∈ (route.change context network node).sources :=
  -- A native texture reads its coordinates from the remapper.
  mem_sources_change.2 (.inr (.inl (node_coordinatesInput native)))

end Route

namespace Document.Graph.Takes

variable (context : TextureContext) (network : Network) {graph : Graph} {routes : List Route}
  (takes : graph.Takes routes)

include takes

/-- No name of the graph comes in with a route. -/
theorem apart {name : String} (named : name ∈ graph.nodes.map (·.name)) : ∀ route ∈ routes,
    name ≠ Texture.readerName route.leaf ∧ name ≠ Texture.remapperName route.leaf :=
  -- Names of the graph are not those that come in.
  fun route listed => ⟨fun same => takes.reader route listed (same ▸ named),
    fun same => takes.remapper route listed (same ▸ named)⟩

/-- A node of the graph is found under its name in the graph with the routes taken, changed by its route if it
has one. -/
theorem node?_routeAll {node : Node} (inside : node ∈ graph.nodes) :
    (graph.routeAll context network routes).node? node.name =
      some (Route.changeAll context network routes node) :=
  -- Names are distinct after the routing, so the node is found by its name.
  (node?_eq_some_iff takes.nodup_routeAll).2
    ⟨List.mem_append_left _ (List.mem_map_of_mem inside), Route.name_changeAll⟩

/-- What a node reads it still draws on once the routes are taken, if only through its remapper. -/
theorem draws_routeAll {name source : String} (reads : graph.Reads name source) :
    Relation.TransGen (graph.routeAll context network routes).Reads name source := by
  obtain ⟨node, found, isSource⟩ := reads
  obtain ⟨inside, rfl⟩ := (node?_eq_some_iff takes.named).1 found
  have after := takes.node?_routeAll context network inside
  by_cases routed : ∃ route ∈ routes, node.name = route.leaf
  -- The inputs of a routed node read what they read, but for that of native coordinates.
  · obtain ⟨route, listed, named⟩ := routed
    rw [Route.changeAll_of_mem takes.distinct listed named] at after
    have direct : source ∈ (route.change context network node).sources →
        Relation.TransGen (graph.routeAll context network routes).Reads node.name source :=
      fun kept => .single ⟨_, after, kept⟩
    rw [Route.mem_sources_change] at direct
    rcases Node.mem_sources_iff.1 isSource with file | coordinates | other
    · exact direct (.inl file)
    · obtain ⟨input, own, isNode⟩ := Option.bind_eq_some_iff.1 coordinates
      have same : Texture.coordinates node = input := by rw [Texture.coordinates, own, Option.getD_some]
      cases native : route.native context with
      | false => exact direct (.inr (.inl (by simpa [Route.coordinatesInput, native, same] using isNode)))
      -- The remapper that the node reads now reads what the node did.
      | true =>
        have remapper := takes.node?_remapperName context network listed inside named native
        exact .tail (.single ⟨_, after, Route.remapperName_mem_sources native⟩)
          ⟨_, remapper, Texture.mem_sources_remapperNode.2 (same ▸ isNode)⟩
    · exact direct (.inr (.inr other))
  · have apart : ∀ route ∈ routes, route.leaf ≠ node.name := fun route listed same =>
      routed ⟨route, listed, same.symm⟩
    rw [Route.changeAll_of_apart apart] at after
    exact .single ⟨node, after, isSource⟩

/-- What the coordinates of a routed node are read from the node read before, or it is its reader. -/
theorem reads_coordinates {route : Route} (listed : route ∈ routes) {node : Node} (inside : node ∈ graph.nodes)
    (named : node.name = route.leaf) {source : String}
    (isSource : (Texture.coordinates node).node = some source) :
    graph.Reads node.name source ∨
      Route.origin routes source = node.name ∧ Route.depth routes source = 2 ∧
        ((graph.routeAll context network routes).node? source).isSome = true := by
  -- The coordinates come from where they came from, or from a reader that came in.
  rcases Texture.node_coordinates isSource with own | ⟨none, rfl⟩
  · exact .inl ⟨node, (node?_eq_some_iff takes.named).2 ⟨inside, rfl⟩, Node.mem_sources_iff.2 (.inr (.inl own))⟩
  · have there := Option.isSome_of_eq_some (takes.node?_readerName context network listed inside named none)
    rw [named] at there ⊢
    exact .inr ⟨Route.origin_of_comesIn listed (.inl rfl), Route.depth_readerName listed, there⟩

/-- What a routed node reads it read before, or it is what came in for it. -/
theorem reads_change {route : Route} (listed : route ∈ routes) {node : Node} (inside : node ∈ graph.nodes)
    (named : node.name = route.leaf) {source : String}
    (isSource : source ∈ (route.change context network node).sources) :
    graph.Reads node.name source ∨
      Route.origin routes source = node.name ∧ 0 < Route.depth routes source ∧
        ((graph.routeAll context network routes).node? source).isSome = true := by
  have before (kept : source ∈ node.sources) : graph.Reads node.name source :=
    ⟨node, (node?_eq_some_iff takes.named).2 ⟨inside, rfl⟩, kept⟩
  -- Only the input for the coordinates can read something else than before.
  rcases Route.mem_sources_change.1 isSource with file | coordinates | other
  · exact .inl (before (Node.mem_sources_iff.2 (.inl file)))
  · cases native : route.native context with
    | false =>
      rw [Route.coordinatesInput, native] at coordinates
      refine (takes.reads_coordinates context network listed inside named coordinates).imp_right ?_
      rintro ⟨origin, depth, present⟩
      exact ⟨origin, depth ▸ Nat.zero_lt_two, present⟩
    -- A native texture reads the remapper, which comes in with it.
    | true =>
      rw [Route.node_coordinatesInput native, Option.some.injEq] at coordinates
      subst coordinates
      have present := Option.isSome_of_eq_some (takes.node?_remapperName context network listed inside named native)
      rw [named] at present ⊢
      exact .inr ⟨Route.origin_of_comesIn listed (.inr rfl),
        Route.depth_remapperName listed ▸ Nat.zero_lt_one, present⟩
  · exact .inl (before (Node.mem_sources_iff.2 (.inr (.inr other))))

/-- What a name reads once the routes are taken is what the name that it stands for read, or what came in and
stands for the same one farther behind. -/
theorem reads_routeAll {name source : String} (reads : (graph.routeAll context network routes).Reads name source) :
    graph.Reads (Route.origin routes name) source ∨
      Route.origin routes source = Route.origin routes name ∧
        Route.depth routes name < Route.depth routes source ∧
        ((graph.routeAll context network routes).node? source).isSome = true := by
  obtain ⟨new, found, isSource⟩ := reads
  obtain ⟨inside, rfl⟩ := (node?_eq_some_iff takes.nodup_routeAll).1 found
  rcases List.mem_append.1 inside with kept | comesIn
  -- A node of the graph stands for itself.
  · obtain ⟨node, isOld, rfl⟩ := List.mem_map.1 kept
    have apart := takes.apart (List.mem_map_of_mem isOld)
    rw [Route.name_changeAll, Route.origin_of_apart apart, Route.depth_of_apart apart]
    by_cases routed : ∃ route ∈ routes, node.name = route.leaf
    · obtain ⟨route, listed, named⟩ := routed
      rw [Route.changeAll_of_mem takes.distinct listed named] at isSource
      exact takes.reads_change context network listed isOld named isSource
    · rw [Route.changeAll_of_apart fun route listed same => routed ⟨route, listed, same.symm⟩] at isSource
      exact .inl ⟨node, (node?_eq_some_iff takes.named).2 ⟨isOld, rfl⟩, isSource⟩
  · obtain ⟨route, listed, node, isOld, named, isNew⟩ := (mem_addedBy takes.named).1 comesIn
    rcases Route.mem_added_iff.1 isNew with ⟨_, rfl⟩ | ⟨_, rfl⟩
    · exact absurd isSource (by simp)
    -- A remapper reads what the coordinates of its node are read from.
    · have name : (Texture.remapperNode context node.name (some (Texture.coordinates node))).name =
          Texture.remapperName route.leaf := congrArg Texture.remapperName named
      rw [name, Route.origin_of_comesIn listed (.inr rfl), Route.depth_remapperName listed, ← named]
      refine (takes.reads_coordinates context network listed isOld named
        (Texture.mem_sources_remapperNode.1 isSource)).imp_right ?_
      rintro ⟨origin, depth, present⟩
      exact ⟨origin, depth ▸ Nat.one_lt_two, present⟩

/-- Where the name that a name stands for can be sorted, what the name reads once the routes are taken is there,
and stands for what was read before or for the same name farther behind. -/
theorem step_routeAll {name source : String} (sortable : graph.Sortable (Route.origin routes name))
    (reads : (graph.routeAll context network routes).Reads name source) :
    ((graph.routeAll context network routes).node? source).isSome = true ∧
      (graph.Reads (Route.origin routes name) (Route.origin routes source) ∨
        Route.origin routes source = Route.origin routes name ∧
          Route.depth routes name < Route.depth routes source) := by
  rcases takes.reads_routeAll context network reads with before | ⟨origin, depth, present⟩
  -- What was read before is a node of the graph, and stands for itself.
  · have named := isSome_node?_iff.1 (sortable.fed _ .refl source before)
    obtain ⟨node, inside, rfl⟩ := List.mem_map.1 named
    refine ⟨Option.isSome_of_eq_some (takes.node?_routeAll context network inside), .inl ?_⟩
    rwa [Route.origin_of_apart (takes.apart named)]
  · exact ⟨present, .inr ⟨origin, depth⟩⟩

/-- A chain of readers with the routes taken stands for a chain before, or leads farther behind one name. -/
theorem chain_routeAll {name source : String} (sortable : graph.Sortable (Route.origin routes name))
    (chain : Relation.TransGen (graph.routeAll context network routes).Reads name source) :
    graph.Sortable (Route.origin routes source) ∧
      (Relation.TransGen graph.Reads (Route.origin routes name) (Route.origin routes source) ∨
        Route.origin routes source = Route.origin routes name ∧
          Route.depth routes name < Route.depth routes source) := by
  -- Sorting goes along with the chain, since each step needs it where the step begins.
  induction chain with
  | single reads =>
    rcases (takes.step_routeAll context network sortable reads).2 with before | ⟨origin, depth⟩
    · exact ⟨sortable.source before, .inl (.single before)⟩
    · exact ⟨origin ▸ sortable, .inr ⟨origin, depth⟩⟩
  | tail _ reads ih =>
    obtain ⟨sortable', chain'⟩ := ih
    rcases (takes.step_routeAll context network sortable' reads).2 with before | ⟨origin, depth⟩
    · refine ⟨sortable'.source before, .inl ?_⟩
      rcases chain' with chain' | ⟨same, _⟩
      · exact chain'.tail before
      · exact .single (same ▸ before)
    -- A step to what came in stays at the origin and goes deeper.
    · refine ⟨origin ▸ sortable', ?_⟩
      rw [origin]
      exact chain'.imp_right fun ⟨same, further⟩ => ⟨same, further.trans depth⟩

/-- What a node draws on can be sorted once the routes are taken if it can before. -/
theorem sortable_routeAll {name : String} (sortable : graph.Sortable (Route.origin routes name)) :
    (graph.routeAll context network routes).Sortable name := by
  have all {reader : String}
      (draws : Relation.ReflTransGen (graph.routeAll context network routes).Reads name reader) :
      graph.Sortable (Route.origin routes reader) := by
    rcases Relation.reflTransGen_iff_eq_or_transGen.1 draws with rfl | chain
    · exact sortable
    · exact (takes.chain_routeAll context network sortable chain).1
  refine ⟨fun reader draws source reads => (takes.step_routeAll context network (all draws) reads).1,
    fun reader draws cycle => ?_⟩
  -- A cycle would stand for one before, or lead behind itself.
  rcases (takes.chain_routeAll context network (all draws) cycle).2 with before | ⟨_, further⟩
  · exact (all draws).acyclic _ .refl before
  · exact Nat.lt_irrefl _ further

/-- What a node draws on can be sorted before if it can once the routes are taken, and no name is read there that
comes in with them. -/
theorem sortable_of_routeAll {name : String} (sortable : (graph.routeAll context network routes).Sortable name)
    (unread : ∀ reader, Relation.ReflTransGen graph.Reads name reader → ∀ source, graph.Reads reader source →
      ∀ route ∈ routes,
        source ≠ Texture.readerName route.leaf ∧ source ≠ Texture.remapperName route.leaf) :
    graph.Sortable name := by
  -- Every chain of before is there as a longer one.
  have chains {first last : String} (chain : Relation.TransGen graph.Reads first last) :
      Relation.TransGen (graph.routeAll context network routes).Reads first last :=
    Relation.TransGen.closed (fun _ _ => takes.draws_routeAll context network) _ _ chain
  have draws {reader : String} (before : Relation.ReflTransGen graph.Reads name reader) :
      Relation.ReflTransGen (graph.routeAll context network routes).Reads name reader := by
    rcases Relation.reflTransGen_iff_eq_or_transGen.1 before with rfl | chain
    · exact .refl
    · exact (chains chain).to_reflTransGen
  refine ⟨fun reader before source reads => ?_, fun reader before cycle =>
    sortable.acyclic reader (draws before) (chains cycle)⟩
  obtain ⟨last, above, isLast⟩ := Relation.TransGen.tail'_iff.1 (takes.draws_routeAll context network reads)
  have present := isSome_node?_iff.1 (sortable.fed last ((draws before).trans above) source isLast)
  -- What is read is there now, and did not come in, so it was there before.
  rw [names_routeAll, List.mem_append] at present
  refine isSome_node?_iff.2 (present.resolve_right fun new => ?_)
  obtain ⟨node, isNew, rfl⟩ := List.mem_map.1 new
  obtain ⟨route, listed, same⟩ := name_of_mem_addedBy takes.named isNew
  exact not_or.2 (unread reader before _ reads route listed) same

end Document.Graph.Takes

/-- Routing textures closes no circle and opens none, and no node goes missing by it, if the document is ready for
the paths. What a node draws on could be sorted before exactly if it can afterwards and no name was read there that
comes in for a path: such a name was of no node before. -/
theorem Document.routeTextures_sorts (context : TextureContext) (network : Network) {paths : NameSet}
    {document : Document} (ready : document.Ready paths.keys) {position : Nat} {graph : Graph}
    (there : document.graphs[position]? = some graph) :
    ∃ after, (document.routeTextures context network paths).document.graphs[position]? = some after ∧
      ∀ node ∈ graph.nodes, ∃ new, after.node? node.name = some new ∧
        ((∃ order, graph.evaluationOrder node = .ok order) ↔
          (∃ order, after.evaluationOrder new = .ok order) ∧
          ∀ reader, Relation.ReflTransGen graph.Reads node.name reader →
            ∀ source, graph.Reads reader source → ∀ path ∈ paths.keys,
              source ≠ Texture.readerName (NodePath.leaf path) ∧
                source ≠ Texture.remapperName (NodePath.leaf path)) := by
  have takes := ready.takes network there
  refine ⟨_, ready.getElem?_routeTextures context network there, fun node inside =>
    ⟨_, takes.node?_routeAll context network inside, ?_⟩⟩
  -- The node is in the graph after as well, and is its own origin.
  have apart := takes.apart (List.mem_map_of_mem inside)
  have found := (Graph.node?_eq_some_iff takes.named).2 ⟨inside, rfl⟩
  have after := takes.node?_routeAll context network inside
  rw [← Route.name_changeAll] at after
  rw [Graph.exists_evaluationOrder_iff found, Graph.exists_evaluationOrder_iff after, Route.name_changeAll]
  constructor
  · intro sortable
    refine ⟨takes.sortable_routeAll context network ?_, fun reader draws source reads path listed => ?_⟩
    · rwa [Route.origin_of_apart apart]
    -- What was read was a node of the graph, of which none has a name that comes in.
    · have present := Graph.isSome_node?_iff.1 (sortable.fed reader draws source reads)
      obtain ⟨node, isNode, rfl⟩ := List.mem_map.1 present
      exact ready.free path listed graph (List.mem_of_getElem? there) node isNode
  · rintro ⟨sortable, unread⟩
    refine takes.sortable_of_routeAll context network sortable fun reader draws source reads route listed => ?_
    exact unread reader draws source reads route.path (mem_routes_iff.1 (List.mem_filter.1 listed).1).1

/-- The last node reads the native texture, which reads the other one: that is an order before, and with the
remapper in between and a reader in front there is one afterwards. -/
theorem Document.Layered.mix_sorts :
    document.Ready paths.keys ∧ document.graphs[0]? = some { name := "NG", nodes := [base, detail, mix] } ∧
    Graph.evaluationOrder { name := "NG", nodes := [base, detail, mix] } mix = .ok [base, detail, mix] ∧
    ∃ after : Graph, (document.routeTextures context network paths).document.graphs[0]? = some after ∧
      ∃ new, after.node? "mix" = some new ∧ ∃ order, after.evaluationOrder new = .ok order := by
  -- The graph is sorted by evaluation, and the general statement then sorts the routed one.
  have ready : document.Ready paths.keys := ⟨by decide, by decide, by decide, by decide⟩
  have evaluates : Graph.evaluationOrder { name := "NG", nodes := [base, detail, mix] } mix =
      .ok [base, detail, mix] := by
    cbv
  obtain ⟨after, there, sorts⟩ := routeTextures_sorts context network ready
    (rfl : document.graphs[0]? = some _)
  obtain ⟨new, found, iff⟩ := sorts mix (by decide)
  exact ⟨ready, rfl, evaluates, after, there, new, found, (iff.1 ⟨_, evaluates⟩).1⟩

namespace Document.Awaited

/-- A material with one texture. -/
def network : Network where
  materialPath := "/M"
  nodes := Dict.ofList [
    ("/M/NG/img", ⟨"ND_image_color3", Dict.ofList [("file", .asset ⟨"/t/a.png", none⟩)], Dict.empty⟩)]
  terminals := Dict.empty

/-- The path of the texture. -/
def paths : NameSet := NameSet.ofList ["/M/NG/img"]

/-- Textures with the extension tex are native. -/
def context : TextureContext := ⟨Registry.empty, Resolver.below none, "tex", "plugin"⟩

/-- A node that reads a missing one, of the name that comes in for the texture. -/
def user : Node where
  name := "user"
  category := "sqrt"
  type := "vector2"
  inputs := [{ name := "in", type := "vector2", node := some "img__texcoord" }]

/-- A graph with the texture, which has no coordinates, and that node. -/
def graph : Graph where
  name := "NG"
  nodes := [{ name := "img", category := "image", type := "color3" }, user]

/-- The node that comes in for the texture. -/
def reader : Node where
  name := "img__texcoord"
  category := "geompropvalue"
  type := "vector2"
  definition := some "ND_geompropvalue_vector2"
  inputs := [{ name := "geomprop", type := "string", value := some (.string "st") }]

/-- The graph once the texture is routed. -/
def after : Graph where
  name := "NG"
  nodes := [
    { name := "img", category := "image", type := "color3"
      inputs := [
        { name := "file", type := "filename"
          value := some (.string "rtxplugin:plugin?filename=/t/a.png&wrapS=repeat&wrapT=repeat") },
        { name := "texcoord", type := "vector2", node := some "img__texcoord" }] },
    user,
    reader]

/-- The node has no order, since what it reads is missing. Routing the texture adds a reader of that name, so that
there is an order afterwards. -/
theorem reader_found :
    Document.Ready { graphs := [graph] } paths.keys ∧ (∀ node ∈ graph.nodes, node.Distinct) ∧
    graph.node? "user" = some user ∧ (¬∃ order, graph.evaluationOrder user = .ok order) ∧
    (Document.routeTextures context network paths { graphs := [graph] }).document.graphs[0]? = some after ∧
    after.node? "user" = some user ∧ ∃ order, after.evaluationOrder user = .ok order := by
  -- The source that is missing at first comes in as a reader of its name.
  have missing : graph.evaluationOrder user = .error (.outsideGraph "user" "in" "img__texcoord" "NG") := by cbv
  have found : after.evaluationOrder user = .ok [reader, user] := by cbv
  refine ⟨⟨by decide, by decide, by decide, by decide⟩, by unfold Node.Distinct; decide, by decide, ?_,
    by decide +kernel, by decide, _, found⟩
  rintro ⟨order, evaluates⟩
  exact absurd (missing.symm.trans evaluates) (by simp)

end Document.Awaited

end ShadeBake
