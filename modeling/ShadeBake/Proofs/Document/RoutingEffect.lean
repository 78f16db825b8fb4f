import ShadeBake.Proofs.Document.Lookup
import ShadeBake.Proofs.Document.Rerouting
import ShadeBake.Proofs.Document.TextureFile

/-! What routing the textures of a document does and what it leaves alone: all listed paths that are found in
the document as it was are routed, each in its graph, and nothing else moves. -/

namespace ShadeBake

open Document (Graph Node Input)

namespace Document

/-- Documents with graphs of the same names, of which the same hold a name, are searched alike for it. -/
theorem findGraph?_congr {first second : Document} {hint name : String}
    (names : first.graphs.map (·.name) = second.graphs.map (·.name))
    (holds : ∀ position, first.HoldsAt name position ↔ second.HoldsAt name position) :
    first.findGraph? hint name = second.findGraph? hint name := by
  have length : first.graphs.length = second.graphs.length := by simpa using congrArg List.length names
  have hinted : first.graphs.findIdx? (·.name = hint) = second.graphs.findIdx? (·.name = hint) := by
    simpa [List.findIdx?_map, Function.comp_def] using congrArg (List.findIdx? (· = hint)) names
  have empty : first.graphs = [] ↔ second.graphs = [] := by
    rw [← List.length_eq_zero_iff, length, List.length_eq_zero_iff]
  -- The positions that are searched depend on the names and the number of the graphs.
  have positions : first.searchPositions hint = second.searchPositions hint := by
    simp only [searchPositions, hinted, length, empty]
  rw [findGraph?_eq_find?, findGraph?_eq_find?, positions]
  congr 1
  funext position
  rw [Bool.eq_iff_iff, Option.any_eq_true, Option.any_eq_true]
  exact holds position

/-- A document is ready for paths when the nodes of each of its graphs have different names, the paths have
different leaves, and neither a node nor a leaf has a name that comes in with a leaf. -/
structure Ready (document : Document) (paths : List String) : Prop where
  named : ∀ graph ∈ document.graphs, (graph.nodes.map (·.name)).Nodup
  distinct : (paths.map NodePath.leaf).Nodup
  free : ∀ path ∈ paths, ∀ graph ∈ document.graphs, ∀ node ∈ graph.nodes,
    node.name ≠ Texture.readerName (NodePath.leaf path) ∧
      node.name ≠ Texture.remapperName (NodePath.leaf path)
  apart : ∀ path ∈ paths, ∀ other ∈ paths,
    NodePath.leaf other ≠ Texture.readerName (NodePath.leaf path) ∧
      NodePath.leaf other ≠ Texture.remapperName (NodePath.leaf path)

/-- The route of a path: it must exist, have a file that is a reference, and be found in the document. -/
def route? (network : Network) (document : Document) (path : String) : Option Route :=
  if network.hasNode path then do
    let reference ← (network.parameter? path "file").bind Parameter.asset?
    let position ← document.findGraph? (NodePath.parent path) (NodePath.leaf path)
    return { path, position, reference }
  else none

/-- The routes of paths, in their order. -/
def routes (network : Network) (document : Document) (paths : List String) : List Route :=
  paths.filterMap (document.route? network)

/-- The document with all routes of a list taken at once, each in its graph. -/
def routeAll (context : TextureContext) (network : Network) (routes : List Route) (document : Document) :
    Document :=
  { document with graphs := document.graphs.mapIdx fun position graph =>
      graph.routeAll context network (routes.filter (·.position = position)) }

variable {context : TextureContext} {network : Network} {document : Document} {path : String} {route : Route}

/-- A path has a route exactly if it exists, has a reference for its file, and is found. -/
theorem route?_eq_some_iff :
    document.route? network path = some route ↔ route.path = path ∧ network.hasNode path = true ∧
      network.parameter? path "file" = some (.asset route.reference) ∧
      document.findGraph? (NodePath.parent path) (NodePath.leaf path) = some route.position := by
  -- The node is present, its file is an asset, and its graph is found: three look-ups in this order.
  obtain ⟨routePath, position, reference⟩ := route
  unfold route?
  cases network.hasNode path with
  | false => simp
  | true =>
    cases network.parameter? path "file" with
    | none => simp
    | some value =>
      cases value with
      | plain _ => simp [Parameter.asset?]
      | asset found =>
        cases document.findGraph? (NodePath.parent path) (NodePath.leaf path) with
        | none => simp [Parameter.asset?]
        | some other => simp [Parameter.asset?, eq_comm, and_comm]

/-- A document that is ready for paths and one more is ready for the first ones. -/
theorem Ready.init {paths : List String} (ready : document.Ready (paths ++ [path])) : document.Ready paths where
  -- A part of the paths asks for less.
  named := ready.named
  distinct := List.Nodup.of_append_left (List.map_append ▸ ready.distinct)
  free path inside := ready.free path (List.mem_append_left _ inside)
  apart path inside other inside' :=
    ready.apart path (List.mem_append_left _ inside) other (List.mem_append_left _ inside')

/-- The routes of paths are those that the listed paths have. -/
theorem mem_routes_iff {paths : List String} :
    route ∈ document.routes network paths ↔
      route.path ∈ paths ∧ document.route? network route.path = some route := by
  -- A route keeps the path that it is made for.
  rw [routes, List.mem_filterMap]
  constructor
  · rintro ⟨path, inside, found⟩
    obtain ⟨rfl, _⟩ := route?_eq_some_iff.1 found
    exact ⟨inside, found⟩
  · rintro ⟨inside, found⟩
    exact ⟨route.path, inside, found⟩

variable {paths : List String}

/-- The routes of paths with different leaves have different leaves. -/
theorem Ready.distinct_routes (ready : document.Ready paths) :
    ((document.routes network paths).map Route.leaf).Nodup :=
  -- A route has the leaf name of its path, and these are distinct.
  (map_filterMap_sublist _ Route.leaf NodePath.leaf (fun path route found => by
    rw [Route.leaf, (route?_eq_some_iff.1 found).1]) paths).nodup ready.distinct

/-- Each graph of a document that is ready takes the routes that lead to it. -/
theorem Ready.takes (ready : document.Ready paths) (network : Network) {position : Nat} {graph : Graph}
    (there : document.graphs[position]? = some graph) :
    graph.Takes ((document.routes network paths).filter (·.position = position)) := by
  have inside := List.mem_of_getElem? there
  have listed {route : Route} (member : route ∈ (document.routes network paths).filter (·.position = position)) :
      route.path ∈ paths ∧ document.route? network route.path = some route ∧ route.position = position := by
    obtain ⟨isRoute, here⟩ := List.mem_filter.1 member
    exact ⟨(mem_routes_iff.1 isRoute).1, (mem_routes_iff.1 isRoute).2, of_decide_eq_true here⟩
  refine ⟨ready.named graph inside, ((List.filter_sublist.map _).nodup ready.distinct_routes),
    fun route member => ?_, fun route member taken => ?_, fun route member taken => ?_⟩
  -- The lookup led to this graph because it holds the leaf.
  · obtain ⟨_, found, rfl⟩ := listed member
    obtain ⟨_, _, _, located⟩ := route?_eq_some_iff.1 found
    obtain ⟨other, isOther, holds⟩ := holdsAt_of_findGraph? located
    cases there.symm.trans isOther
    exact Graph.isSome_node?_iff.1 holds
  -- The names that come in are free in every graph.
  · obtain ⟨node, isNode, same⟩ := List.mem_map.1 taken
    exact (ready.free _ (listed member).1 graph inside node isNode).1 same
  · obtain ⟨node, isNode, same⟩ := List.mem_map.1 taken
    exact (ready.free _ (listed member).1 graph inside node isNode).2 same

/-- The graph at a position of a document with routes taken. -/
theorem getElem?_routeAll (routes : List Route) (position : Nat) :
    (document.routeAll context network routes).graphs[position]? =
      (document.graphs[position]?).map
        (·.routeAll context network (routes.filter (·.position = position))) :=
  -- Each graph takes the routes that lead into it.
  List.getElem?_mapIdx

/-- What is seen of each graph alone and stays in taking routes stays in the document. -/
theorem map_graphs_routeAll {α : Type} (view : Graph → α)
    (keeps : ∀ routes graph, view (Graph.routeAll context network routes graph) = view graph)
    (routes : List Route) :
    (document.routeAll context network routes).graphs.map view = document.graphs.map view := by
  -- Graphs are changed position by position.
  refine List.ext_getElem? fun position => ?_
  rw [List.getElem?_map, List.getElem?_map, getElem?_routeAll, Option.map_map]
  exact congrArg (Option.map · _) (funext fun graph => keeps _ graph)

/-- Without routes a document stays as it is. -/
theorem routeAll_nil : document.routeAll context network [] = document := by
  -- Without routes every graph is the one that it was.
  have graphs : (document.routeAll context network []).graphs = document.graphs :=
    List.ext_getElem? fun position => by
      simp only [getElem?_routeAll, List.filter_nil, Graph.routeAll_nil, Option.map_id']
  exact congrArg (Document.mk document.nodes) graphs

/-- One more route changes the graph to which it leads, and no other one. -/
theorem routeAll_concat {routes : List Route} {graph : Graph}
    (there : document.graphs[route.position]? = some graph) :
    (document.routeAll context network routes).modifyGraph route.position (fun _ =>
        graph.routeAll context network (routes.filter (·.position = route.position) ++ [route])) =
      document.routeAll context network (routes ++ [route]) := by
  have graphs : ((document.routeAll context network routes).modifyGraph route.position fun _ =>
      graph.routeAll context network (routes.filter (·.position = route.position) ++ [route])).graphs =
        (document.routeAll context network (routes ++ [route])).graphs := by
    refine List.ext_getElem? fun position => ?_
    rw [modifyGraph, List.getElem?_modify, getElem?_routeAll, getElem?_routeAll]
    -- Elsewhere the route is filtered out.
    by_cases here : route.position = position
    · subst here
      simp [there]
    · simp [here]
  exact congrArg (Document.mk document.nodes) graphs

/-- With routes taken, a name is found where it was if none of what comes in has it. -/
theorem Ready.findGraph?_routeAll (ready : document.Ready paths) (hint : String) {name : String}
    (apart : ∀ path ∈ paths, name ≠ Texture.readerName (NodePath.leaf path) ∧
      name ≠ Texture.remapperName (NodePath.leaf path)) :
    (document.routeAll context network (document.routes network paths)).findGraph? hint name =
      document.findGraph? hint name := by
  refine findGraph?_congr (map_graphs_routeAll Graph.name (fun _ _ => rfl) _) fun position => ?_
  unfold HoldsAt
  rw [getElem?_routeAll]
  cases there : document.graphs[position]? with
  | none => simp
  -- A graph keeps its names and gains some.
  | some graph =>
    simp only [Option.map_some, Option.some.injEq, exists_eq_left', Graph.isSome_node?_iff,
      Graph.names_routeAll, List.mem_append, or_iff_left_iff_imp]
    -- What came in does not bear the name.
    intro new
    obtain ⟨node, isNew, rfl⟩ := List.mem_map.1 new
    have named := ready.named graph (List.mem_of_getElem? there)
    obtain ⟨route, member, same⟩ := Graph.name_of_mem_addedBy named isNew
    have listed := (mem_routes_iff.1 (List.mem_filter.1 member).1).1
    exact absurd same (not_or.2 (apart route.path listed))

end Document

namespace RoutedDocument

variable (context : TextureContext) {network : Network} {routed : RoutedDocument} {path : String}

/-- A path without a route leaves the document and the count as they are. -/
theorem routePath_of_none (unrouted : routed.document.route? network path = none) :
    (routed.routePath context network path).document = routed.document ∧
      (routed.routePath context network path).updated = routed.updated := by
  unfold Document.route? at unrouted
  unfold routePath
  -- Only where a graph with the node is found anything would change, and then there would be a route.
  split
  · split
    · exact ⟨rfl, rfl⟩
    · exact ⟨rfl, rfl⟩
    · split
      · exact ⟨rfl, rfl⟩
      · split
        · exact ⟨rfl, rfl⟩
        · simp_all [Parameter.asset?]
  · exact ⟨rfl, rfl⟩

/-- A path with a route has its node routed in the graph at the position, and counts. -/
theorem routePath_of_some {route : Route} {graph : Graph}
    (found : routed.document.route? network path = some route)
    (there : routed.document.graphs[route.position]? = some graph) :
    (routed.routePath context network path).document =
        routed.document.modifyGraph route.position (fun _ =>
          (Texture.routeNode context network route.path (network.typeOf route.path)
            (Texture.resolved context route.reference) graph).1) ∧
      (routed.routePath context network path).updated = routed.updated + 1 := by
  -- The three look-ups of the step end as they do for the route.
  obtain ⟨rfl, known, isFile, located⟩ := Document.route?_eq_some_iff.1 found
  unfold routePath
  simp only [known, if_true, isFile, located, there, and_self]

/-- Routing paths one after the other takes all routes that they have in the document as it was, and counts
them. -/
theorem routePaths_eq (network : Network) {document : Document} {paths : List String}
    (ready : document.Ready paths) :
    (paths.foldl (routePath context network) { document }).document =
        document.routeAll context network (document.routes network paths) ∧
      (paths.foldl (routePath context network) { document }).updated = (document.routes network paths).length := by
  induction paths using List.reverseRecOn with
  | nil => exact ⟨Document.routeAll_nil.symm, rfl⟩
  | append_singleton paths path ih =>
    obtain ⟨routed, counted⟩ := ih ready.init
    rw [List.foldl_append, List.foldl_cons, List.foldl_nil]
    generalize paths.foldl (routePath context network) { document } = done at routed counted ⊢
    -- The path leads to where it led in the document as it was.
    have same : done.document.route? network path = document.route? network path := by
      unfold Document.route?
      rw [routed, ready.init.findGraph?_routeAll _ fun other inside =>
        ready.apart other (List.mem_append_left _ inside) path (List.mem_append_right _ List.mem_cons_self)]
    cases found : document.route? network path with
    -- The list of routes stays, and so do the document and the count.
    | none =>
      obtain ⟨stays, count⟩ := routePath_of_none context (same.trans found)
      simp [stays, count, routed, counted, Document.routes, found]
    | some route =>
      have routes : document.routes network (paths ++ [path]) = document.routes network paths ++ [route] := by
        simp [Document.routes, found]
      obtain ⟨_, _, _, located⟩ := Document.route?_eq_some_iff.1 found
      obtain ⟨graph, there, _⟩ := Document.holdsAt_of_findGraph? located
      -- In its graph, the routes that lead there are the earlier ones and this one.
      have takes := ready.takes network there
      have led : ([route].filter fun other => decide (other.position = route.position)) = [route] := by simp
      rw [routes, List.filter_append, led] at takes
      have there' : done.document.graphs[route.position]? = some (graph.routeAll context network
          ((document.routes network paths).filter (·.position = route.position))) := by
        rw [routed, Document.getElem?_routeAll, there, Option.map_some]
      obtain ⟨changes, count⟩ := routePath_of_some context (same.trans found) there'
      rw [changes, count, routed, counted, routes, Graph.routeNode_routeAll takes,
        Document.routeAll_concat there, List.length_append]
      exact ⟨rfl, rfl⟩

end RoutedDocument

/-- Each graph of a document that is ready comes out with the routes taken that lead to it. -/
theorem Document.Ready.getElem?_routeTextures (context : TextureContext) (network : Network) {paths : NameSet}
    {document : Document} (ready : document.Ready paths.keys) {position : Nat} {graph : Graph}
    (there : document.graphs[position]? = some graph) :
    (document.routeTextures context network paths).document.graphs[position]? =
      some (graph.routeAll context network
        ((document.routes network paths.keys).filter (·.position = position))) := by
  -- The steps for all paths together are the routing of all routes at once.
  rw [routeTextures, (RoutedDocument.routePaths_eq context network ready).1, getElem?_routeAll, there,
    Option.map_some]

/-- A route leaves its node rerouted to a path in a graph when only the inputs for the file and for the coordinates are
not as before. The coordinates come from where they did, or else from a new reader in the graph. For a native path the
file is the path, and a new remapper in the graph reads the coordinates, which the node reads from that. For any other
one the file is the locator for the plugin, and the node reads the coordinates itself. -/
structure Route.Rerouted (context : TextureContext) (network : Network) (route : Route) (path : Path) (after : Graph)
    (old new : Node) : Prop where
  leads : Texture.Leads context.resolver route.reference path
  same : new = { old with inputs := new.inputs }
  others : new.otherInputs = old.otherInputs
  reader : old.input? "texcoord" = none →
    after.node? (old.name ++ "__texcoord") = some {
      name := old.name ++ "__texcoord"
      category := "geompropvalue"
      type := "vector2"
      definition := some "ND_geompropvalue_vector2"
      inputs := [{
        name := "geomprop"
        type := "string"
        value := some (.string
          (((context.registry.definition? (network.typeOf route.path)).bind ShaderEntry.primvarHint?).getD "st")) }]
      signature := context.registry.signature? "ND_geompropvalue_vector2" }
  plugged : ¬Texture.Native context path →
    new.input? "texcoord" = some (Texture.sourceInput old) ∧
      ∃ u v, Texture.Continues network route.path "uaddressmode" u ∧
        Texture.Continues network route.path "vaddressmode" v ∧
        new.input? "file" = some (Texture.fileInput old
          ("rtxplugin:" ++ context.plugin ++ "?filename=" ++ path ++ "&wrapS=" ++ u ++ "&wrapT=" ++ v))
  native : Texture.Native context path →
    new.input? "file" = some (Texture.fileInput old path) ∧
      new.input? "texcoord" = some
        { Texture.sourceInput old with node := some (old.name ++ "__remap"), output := none, value := none } ∧
      after.node? (old.name ++ "__remap") = some {
        name := old.name ++ "__remap"
        category := "remap"
        type := "vector2"
        definition := some "ND_remap_vector2"
        inputs := [
          { name := "in", type := "vector2", node := (Texture.sourceInput old).node
            output := (Texture.sourceInput old).output, value := (Texture.sourceInput old).value },
          { name := "inlow", type := "float2", value := some (.vector [.ofInt .single 0, .ofInt .single 1]) },
          { name := "inhigh", type := "float2", value := some (.vector [.ofInt .single 1, .ofInt .single 0]) }]
        signature := context.registry.signature? "ND_remap_vector2" }

/-- A node comes in with the routing of another one when it bears the name of a reader for that, which has no coordinates,
or of a remapper for it, whose file is native. -/
inductive Route.ComesIn (context : TextureContext) (route : Route) (old : Node) (name : String) : Prop
  | reader (absent : old.input? "texcoord" = none) (named : name = old.name ++ "__texcoord")
  | remapper {path : Path} (leads : Texture.Leads context.resolver route.reference path)
      (native : Texture.Native context path) (named : name = old.name ++ "__remap")

/-- What comes in with a route comes in under a name for that. -/
theorem Route.comesIn_of_mem_added {context : TextureContext} {network : Network} {route : Route} {old new : Node}
    (member : new ∈ route.added context network old) : route.ComesIn context old new.name := by
  -- What is added is the reader or the remapper, each under its own condition.
  rcases Route.mem_added_iff.1 member with ⟨absent, rfl⟩ | ⟨native, rfl⟩
  · exact .reader absent rfl
  · exact .remapper (Texture.leads_iff.2 rfl) (Texture.native_iff.2 native) rfl

namespace Document.Graph.Takes

variable {graph : Graph} {routes : List Route} (takes : graph.Takes routes) (context : TextureContext)
  (network : Network)

include takes

/-- What comes in for a route's node is found in the graph with the routes taken. -/
theorem node?_of_mem_added {route : Route} (listed : route ∈ routes) {old new : Node} (inside : old ∈ graph.nodes)
    (named : old.name = route.leaf) (isNew : new ∈ route.added context network old) :
    (graph.routeAll context network routes).node? new.name = some new :=
  -- Names are distinct after the routing, so the node is found by its name.
  (node?_eq_some_iff (takes.nodup_routeAll)).2 ⟨List.mem_append_right _
    ((mem_addedBy takes.named).2 ⟨route, listed, old, inside, named, isNew⟩), rfl⟩

/-- The reader that comes in for a node without coordinates is found. -/
theorem node?_readerName {route : Route} (listed : route ∈ routes) {old : Node} (inside : old ∈ graph.nodes)
    (named : old.name = route.leaf) (absent : old.input? "texcoord" = none) :
    (graph.routeAll context network routes).node? (Texture.readerName old.name) =
      some (Texture.readerNode context old.name (Texture.primvar context route.path (network.typeOf route.path)).1) :=
  -- A texture without coordinates is given the reader.
  takes.node?_of_mem_added context network listed inside named (Route.mem_added_iff.2 (.inl ⟨absent, rfl⟩))

/-- The remapper that comes in for a node with a native file is found. -/
theorem node?_remapperName {route : Route} (listed : route ∈ routes) {old : Node} (inside : old ∈ graph.nodes)
    (named : old.name = route.leaf) (native : route.native context = true) :
    (graph.routeAll context network routes).node? (Texture.remapperName old.name) =
      some (Texture.remapperNode context old.name (some (Texture.coordinates old))) :=
  -- A native texture is given the remapper.
  takes.node?_of_mem_added context network listed inside named (Route.mem_added_iff.2 (.inr ⟨native, rfl⟩))

/-- A node to which a route leads is rerouted in the graph with the routes taken. -/
theorem rerouted {route : Route} (listed : route ∈ routes)
    {old : Node} (inside : old ∈ graph.nodes)
    (named : old.name = route.leaf) :
    ∃ new ∈ (graph.routeAll context network routes).nodes,
      route.Rerouted context network (Texture.resolved context route.reference)
        (graph.routeAll context network routes) old new := by
  -- The node comes out as the change that its one route makes, and what comes in for it is found by name.
  refine ⟨route.change context network old, List.mem_append_left _ (List.mem_map.2 ⟨old, inside,
    Route.changeAll_of_mem takes.distinct listed named⟩), ?_⟩
  have file := route.input?_file_change context network old
  have coordinates := route.input?_texcoord_change context network old
  unfold Route.coordinatesInput at coordinates
  unfold Route.fileInput Route.text at file
  refine ⟨Texture.leads_iff.2 rfl, route.change_eq context network old, route.otherInputs_change context network old,
    fun absent => ?_, fun plugged => ?_, fun native => ?_⟩
  · have isReader := takes.node?_readerName context network listed inside named absent
    rw [Texture.primvar_fst] at isReader
    exact isReader
  -- A path that is not native has the modes of the node in its locator.
  · have foreign : route.native context = false := Bool.eq_false_iff.2 fun native => plugged (Texture.native_iff.2 native)
    simp only [foreign, Bool.false_eq_true, if_false] at file coordinates
    refine ⟨coordinates, _, _, Texture.continues_ofParameter network route.path "uaddressmode",
      Texture.continues_ofParameter network route.path "vaddressmode", ?_⟩
    exact file
  · have native : route.native context = true := Texture.native_iff.1 native
    simp only [native, if_true] at file coordinates
    exact ⟨file, coordinates, takes.node?_remapperName context network listed inside named native⟩

end Document.Graph.Takes

/-- What routing the textures of a document does, if the document is ready for the paths. A path is routed if it has a
type, has a reference for its file, and is located in the document as it was; the count is that of these paths, which
lead to nodes of different names. Nodes outside all graphs stay, and so do the names and the outputs of the graphs. In
each graph, the names of nodes are still different. A node to which no path leads stays as it was, each other one is
rerouted to the path of its file, and besides there are only the readers and remappers that come in for the latter. -/
theorem Document.routeTextures_effect (context : TextureContext) (network : Network) {paths : NameSet}
    {document : Document} (ready : document.Ready paths.keys) :
    let routed := document.routeTextures context network paths
    let routes := document.routes network paths.keys
    (∀ route, route ∈ routes ↔ route.path ∈ paths.keys ∧ network.typeOf route.path ≠ "" ∧
      network.parameter? route.path "file" = some (.asset route.reference) ∧
      document.Located (NodePath.parent route.path) route.leaf route.position) ∧
    routed.updated = routes.length ∧ (routes.map Route.leaf).Nodup ∧
    routed.document.nodes = document.nodes ∧
    routed.document.graphs.map (fun graph => (graph.name, graph.outputs)) =
      document.graphs.map (fun graph => (graph.name, graph.outputs)) ∧
    ∀ position graph, document.graphs[position]? = some graph → ∃ after,
      routed.document.graphs[position]? = some after ∧ (after.nodes.map (·.name)).Nodup ∧
      (∀ node ∈ graph.nodes,
        (∀ route ∈ routes, route.position = position → route.leaf ≠ node.name) → node ∈ after.nodes) ∧
      (∀ route ∈ routes, route.position = position → ∃ old ∈ graph.nodes, ∃ new ∈ after.nodes,
        old.name = route.leaf ∧ ∃ path, route.Rerouted context network path after old new) ∧
      ∀ node ∈ after.nodes, node.name ∈ graph.nodes.map (·.name) ∨
        ∃ route ∈ routes, route.position = position ∧ ∃ old ∈ graph.nodes, old.name = route.leaf ∧
          route.ComesIn context old node.name := by
  intro routed routes
  -- One path after the other is routed as all would be at once.
  obtain ⟨same, counted⟩ : routed.document = document.routeAll context network routes ∧
      routed.updated = routes.length := RoutedDocument.routePaths_eq context network ready
  refine ⟨fun route => ?_, counted, ready.distinct_routes, (congrArg Document.nodes same :), ?_,
    fun position graph there => ?_⟩
  · rw [mem_routes_iff, route?_eq_some_iff, Route.leaf, findGraph?_eq_some_iff]
    simp [Network.hasNode]
  · rw [same]
    exact map_graphs_routeAll _ (fun _ _ => rfl) _
  -- The graph afterwards is the one with the routes taken that lead to it.
  · have takes := ready.takes network there
    have mem_here {route : Route} :
        route ∈ routes.filter (·.position = position) ↔ route ∈ routes ∧ route.position = position := by
      rw [List.mem_filter, decide_eq_true_eq]
    refine ⟨_, ready.getElem?_routeTextures context network there, takes.nodup_routeAll,
      fun node inside apart => ?_, fun route listed here => ?_, fun node inside => ?_⟩
    · refine List.mem_append_left _ (List.mem_map.2 ⟨node, inside, Route.changeAll_of_apart ?_⟩)
      exact fun route listed => apart route (mem_here.1 listed).1 (mem_here.1 listed).2
    · obtain ⟨old, isOld, named⟩ := List.mem_map.1 (takes.present route (mem_here.2 ⟨listed, here⟩))
      obtain ⟨new, isNew, rerouted⟩ := takes.rerouted context network (mem_here.2 ⟨listed, here⟩) isOld named
      exact ⟨old, isOld, new, isNew, named, _, rerouted⟩
    -- A node was there, or it came in with one of the routes.
    · rcases List.mem_append.1 inside with kept | new
      · obtain ⟨old, isOld, rfl⟩ := List.mem_map.1 kept
        exact .inl (List.mem_map.2 ⟨old, isOld, Route.name_changeAll.symm⟩)
      · obtain ⟨route, listed, old, isOld, named, isNew⟩ := (Graph.mem_addedBy takes.named).1 new
        exact .inr ⟨route, (mem_here.1 listed).1, (mem_here.1 listed).2, old, isOld, named,
          Route.comesIn_of_mem_added isNew⟩

namespace Document.Layered

/-- A material with two textures. One is below the asset root and not native; the other is native by the path that it was
resolved to, though not by what was authored. -/
def network : Network where
  materialPath := "/M"
  nodes := Dict.ofList [
    ("/M/NG/base", ⟨"image", Dict.ofList [
      ("file", .asset ⟨"base.png", none⟩),
      ("uaddressmode", .plain (.string "clamp")),
      ("vaddressmode", .plain (.string "constant"))], Dict.empty⟩),
    ("/M/NG/detail", ⟨"image", Dict.ofList [("file", .asset ⟨"detail.png", some "/cache/detail.tex"⟩)], Dict.empty⟩)]
  terminals := Dict.empty

/-- The texture that is not native has no coordinates. -/
def base : Node := { name := "base", category := "image", type := "vector2" }

/-- The native texture reads its coordinates from the other one. -/
def detail : Node where
  name := "detail"
  category := "image"
  type := "color3"
  inputs := [{ name := "texcoord", type := "vector2", node := some "base", output := some "out" }]

/-- A node that is no texture. -/
def mix : Node where
  name := "mix"
  category := "mix"
  type := "color3"
  inputs := [{ name := "fg", type := "color3", node := some "detail" }]

/-- A document with these nodes. -/
def document : Document := { graphs := [{ name := "NG", nodes := [base, detail, mix] }] }

/-- Textures with the extension tex are native, and relative references stand below a directory. -/
def context : TextureContext := ⟨Registry.empty, Resolver.below (some "/assets"), "tex", "plugin"⟩

/-- The paths of the two textures, and one that does not exist. -/
def paths : NameSet := NameSet.ofList ["/M/NG/base", "/M/NG/detail", "/M/NG/lost"]

/-- The route of the first texture. -/
def baseRoute : Route := ⟨"/M/NG/base", 0, ⟨"base.png", none⟩⟩

/-- The route of the second texture. -/
def detailRoute : Route := ⟨"/M/NG/detail", 0, ⟨"detail.png", some "/cache/detail.tex"⟩⟩

/-- The first texture gets its locator, with the path below the directory and the modes of its node, and a reader. The
second one gets the path that it was resolved to and reads the first through a remapper, and the third node stays. -/
theorem routes_both :
    document.Ready paths.keys ∧ (document.routeTextures context network paths).updated = 2 ∧
    ∃ after : Graph, (document.routeTextures context network paths).document.graphs[0]? = some after ∧
      mix ∈ after.nodes ∧
      (∃ first ∈ after.nodes,
        first.input? "file" = some {
          name := "file"
          type := "filename"
          value := some (.string "rtxplugin:plugin?filename=/assets/base.png&wrapS=clamp&wrapT=black") } ∧
        first.input? "texcoord" =
          some { name := "texcoord", type := "vector2", node := some "base__texcoord" }) ∧
      (after.node? "base__texcoord").map (·.category) = some "geompropvalue" ∧
      (∃ second ∈ after.nodes,
        second.input? "file" = some {
          name := "file"
          type := "filename"
          value := some (.string "/cache/detail.tex") } ∧
        second.input? "texcoord" =
          some { name := "texcoord", type := "vector2", node := some "detail__remap" }) ∧
      (after.node? "detail__remap").bind (·.input? "in") =
        some { name := "in", type := "vector2", node := some "base", output := some "out" } := by
  have ready : document.Ready paths.keys := ⟨by decide, by decide, by decide, by decide⟩
  have routes : document.routes network paths.keys = [baseRoute, detailRoute] := by decide
  obtain ⟨_, counted, _, _, _, graphs⟩ := routeTextures_effect context network ready
  obtain ⟨after, there, _, stays, rerouted, _⟩ := graphs 0 _ rfl
  rw [routes] at counted stays rerouted
  -- The names tell which node each route leads to.
  have isBase : ∀ node ∈ [base, detail, mix], node.name = baseRoute.leaf → node = base := by decide
  have isDetail : ∀ node ∈ [base, detail, mix], node.name = detailRoute.leaf → node = detail := by decide
  obtain ⟨old, inside, first, isFirst, named, path, toBase⟩ := rerouted _ List.mem_cons_self rfl
  obtain rfl := isBase old inside named
  obtain ⟨other, inside', second, isSecond, named', path', toDetail⟩ :=
    rerouted _ (List.mem_cons_of_mem _ List.mem_cons_self) rfl
  obtain rfl := isDetail other inside' named'
  -- The first reference leads below the directory, the second where it led before.
  obtain rfl : path = "/assets/base.png" := (Texture.leads_iff.1 toBase.leads).trans (by decide)
  obtain rfl : path' = "/cache/detail.tex" := (Texture.leads_iff.1 toDetail.leads).trans (by decide)
  have foreign : ¬Texture.Native context "/assets/base.png" := by
    rw [Texture.native_iff]
    decide +kernel
  have isNative : Texture.Native context "/cache/detail.tex" := by
    rw [Texture.native_iff]
    decide +kernel
  obtain ⟨direct, u, v, along, across, file⟩ := toBase.plugged foreign
  obtain rfl := along.unique (.clamp rfl)
  obtain rfl := across.unique (.black rfl)
  obtain ⟨file', coordinates, remapper⟩ := toDetail.native isNative
  refine ⟨ready, counted, after, there, stays mix (by decide) (by decide), ⟨first, isFirst, file.trans ?_, direct⟩, ?_,
    ⟨second, isSecond, file', coordinates⟩, ?_⟩
  · decide
  · exact congrArg _ (toBase.reader rfl)
  · exact congrArg (Option.bind · _) remapper

end Document.Layered

end ShadeBake
