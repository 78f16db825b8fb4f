import Mathlib.Data.List.Induction
import Mathlib.Data.List.Nodup
import ShadeBake.Proofs.Document.TextureNode

/-! Routing textures one after the other does in each graph what routing them all at once would: no routing
touches the node of another one, and what comes in with it is nothing that another one looks for. -/

namespace ShadeBake

open Document (Graph Node Input)

namespace Document.Graph

variable {graph : Graph} {front back : List Node} {node : Node} {name : String}

/-- The first node of a name is found. -/
theorem node?_split (first : ∀ other ∈ front, other.name ≠ name) (named : node.name = name) :
    ({ graph with nodes := front ++ node :: back } : Graph).node? name = some node := by
  -- No node in front has the name, so the search ends at this one.
  have none : front.find? (·.name = name) = Option.none :=
    List.find?_eq_none.2 fun other inside => by simpa using first other inside
  simp [node?, List.find?_append, none, named]

/-- The first node of a name is the one that is changed. -/
theorem modifyNode_split (first : ∀ other ∈ front, other.name ≠ name) (named : node.name = name)
    (change : Node → Node) :
    ({ graph with nodes := front ++ node :: back } : Graph).modifyNode name change =
      { graph with nodes := front ++ change node :: back } := by
  -- The change is made to the first node of the name, and the nodes in front are passed over.
  rw [modifyNode, Graph.mk.injEq]
  refine ⟨rfl, ?_, rfl⟩
  induction front with
  | nil => simp [modifyFirst, named]
  | cons head rest ih =>
    have apart := first head List.mem_cons_self
    simpa [modifyFirst, apart] using ih fun other inside => first other (List.mem_cons_of_mem _ inside)

/-- A node of a new name comes in last. -/
theorem addNode_of_fresh (new : Node) (fresh : new.name ∉ graph.nodes.map (·.name)) :
    graph.addNode new = { graph with nodes := graph.nodes ++ [new] } := by
  -- There is no node of the name to be replaced.
  have kept : graph.nodes.filter (·.name ≠ new.name) = graph.nodes :=
    List.filter_eq_self.2 fun other inside => decide_eq_true fun same =>
      fresh (List.mem_map.2 ⟨other, inside, same⟩)
  rw [addNode, putNode, kept]

end Document.Graph

namespace Texture

variable {context : TextureContext} {graph : Graph} {front back : List Node} {node : Node} {name : String}
  (first : ∀ other ∈ front, other.name ≠ name) (named : node.name = name)

include first named

/-- Giving a node coordinates that has none adds a reader that it reads them from. -/
theorem withCoordinates_split (path type : String)
    (fresh : readerName name ∉ (front ++ node :: back).map (·.name)) :
    (withCoordinates context path type name { graph with nodes := front ++ node :: back }).1 =
      { graph with nodes :=
        front ++ coordinated node :: (back ++ newReader context path type node) } := by
  have found : ({ graph with nodes := front ++ node :: back } : Graph).node? name = some node :=
    Graph.node?_split first named
  unfold withCoordinates hasCoordinates coordinated newReader
  rw [found, Option.bind_some]
  cases own : node.input? "texcoord" with
  -- Coordinates that are there stay.
  | some input => simp
  -- The reader comes in last, so the node is still the first of its name when it is changed.
  | none =>
    simp only [Option.isSome_none, Bool.false_eq_true, if_false, coordinates, own, Option.getD_none, named]
    rw [Graph.addNode_of_fresh (readerNode context name _) fresh, List.append_assoc, List.cons_append,
      Graph.modifyNode_split first named]

/-- Putting a remapper behind the coordinates of a node adds one that reads what they were read from. -/
theorem withRemapper_split {source : Input} (found : node.input? "texcoord" = some source)
    (fresh : remapperName name ∉ (front ++ node :: back).map (·.name)) :
    withRemapper context name { graph with nodes := front ++ node :: back } =
      { graph with nodes := front ++ node.modifyInput "texcoord" (throughRemapper name) ::
          (back ++ [remapperNode context name (some source)]) } := by
  unfold withRemapper
  -- The remapper takes over the input as it is before the node is changed.
  rw [Graph.node?_split first named, Option.bind_some, found]
  dsimp only
  rw [Graph.addNode_of_fresh (remapperNode context name _) fresh, List.append_assoc, List.cons_append,
    Graph.modifyNode_split first named]
  rfl

end Texture

namespace Route

variable {context : TextureContext} {network : Network} {route : Route} {graph : Graph}

/-- Routing a node sets its file, gives it coordinates, and puts a remapper behind these if the file is native.
-/
theorem routeNode_fst :
    (Texture.routeNode context network route.path (network.typeOf route.path)
        (Texture.resolved context route.reference) graph).1 =
      let coordinated := (Texture.withCoordinates context route.path (network.typeOf route.path) route.leaf
        (Texture.setFile graph route.leaf (route.text context network))).1
      if route.native context then Texture.withRemapper context route.leaf coordinated else coordinated := by
  -- The two ways of routing differ in the remapper and in the text of the file.
  unfold Texture.routeNode text native
  split
  · rfl
  · rfl

/-- Routing a node changes that node and adds what comes in with it. -/
theorem routeNode_split {front back : List Node} {node : Node}
    (first : ∀ other ∈ front, other.name ≠ route.leaf) (named : node.name = route.leaf)
    (reader : Texture.readerName route.leaf ∉ (front ++ node :: back).map (·.name))
    (remapper : Texture.remapperName route.leaf ∉ (front ++ node :: back).map (·.name)) :
    (Texture.routeNode context network route.path (network.typeOf route.path)
        (Texture.resolved context route.reference) { graph with nodes := front ++ node :: back }).1 =
      { graph with nodes :=
        front ++ route.change context network node :: (back ++ route.added context network node) } := by
  have file := node.gains_setValue "file" (.string (route.text context network)) "filename"
  rw [routeNode_fst, Texture.setFile, Graph.modifyNode_split first named, change, added]
  generalize node.setValue "file" (.string (route.text context network)) "filename" = filed at file ⊢
  -- No change of the node changes its name, so the names that come in are still new.
  have names {changed : Node} (same : changed.name = node.name) :
      (front ++ changed :: back).map (·.name) = (front ++ node :: back).map (·.name) := by
    simp [same]
  have coordinates := Texture.gains_coordinated filed
  have isFiled := file.name_eq
  have isCoordinated := coordinates.name_eq.trans isFiled
  rw [Texture.withCoordinates_split first (isFiled.trans named) _ _ (names isFiled ▸ reader),
    Texture.newReader_of_gains file]
  dsimp only
  split
  · have fresh : Texture.remapperName route.leaf ∉ (front ++ Texture.coordinated filed ::
        (back ++ Texture.newReader context route.path (network.typeOf route.path) node)).map (·.name) := by
      rw [← List.cons_append, ← List.append_assoc, List.map_append, names isCoordinated, List.mem_append]
      -- A reader that came in does not have the name of the remapper.
      rintro (old | new)
      · exact remapper old
      · obtain ⟨other, inside, same⟩ := List.mem_map.1 new
        exact Texture.readerName_ne_remapperName _ _ ((Texture.name_of_mem_newReader inside).symm.trans same)
    rw [Texture.withRemapper_split first (isCoordinated.trans named) coordinates.given fresh,
      Texture.coordinates_of_gains file, named, List.append_assoc]
  · rw [List.append_nil]

/-- The node as it is once the routes of a list are taken, of which one leads to it at most. -/
def changeAll (context : TextureContext) (network : Network) (routes : List Route) (node : Node) : Node :=
  match routes.find? (·.leaf = node.name) with
  | some route => route.change context network node
  | none => node

variable {routes : List Route} {node : Node}

/-- A node keeps its name. -/
theorem name_changeAll : (changeAll context network routes node).name = node.name := by
  -- A node is changed by one route or not at all.
  unfold changeAll
  split
  · exact name_change context network _ node
  · rfl

/-- A node is changed by the route that leads to it, if there is only one. -/
theorem changeAll_of_mem (distinct : (routes.map leaf).Nodup) (inside : route ∈ routes)
    (named : node.name = route.leaf) :
    changeAll context network routes node = route.change context network node := by
  -- The route is the only one that leads to the node.
  rw [changeAll, (find?_eq_some_iff_of_nodup distinct).2 ⟨inside, named.symm⟩]

/-- A node to which no route leads stays. -/
theorem changeAll_of_apart (apart : ∀ route ∈ routes, route.leaf ≠ node.name) :
    changeAll context network routes node = node := by
  -- No route leads to the node.
  have unfound : routes.find? (·.leaf = node.name) = none :=
    List.find?_eq_none.2 fun route inside => by simpa using apart route inside
  rw [changeAll, unfound]

/-- One more route changes no node but that to which it leads. -/
theorem changeAll_concat (apart : node.name ≠ route.leaf) :
    changeAll context network (routes ++ [route]) node = changeAll context network routes node := by
  -- The last route is not the node's own, so the search does not end there.
  have passed : [route].find? (·.leaf = node.name) = none := by simp [Ne.symm apart]
  rw [changeAll, changeAll, List.find?_append, passed, Option.or_none]

end Route

namespace Document.Graph

/-- The nodes that come in with the routes of a list. -/
def addedBy (context : TextureContext) (network : Network) (routes : List Route) (graph : Graph) : List Node :=
  routes.flatMap fun route => (graph.node? route.leaf).toList.flatMap (route.added context network)

/-- The graph with all routes of a list taken at once. -/
def routeAll (context : TextureContext) (network : Network) (routes : List Route) (graph : Graph) : Graph :=
  { graph with
    nodes := graph.nodes.map (Route.changeAll context network routes) ++ graph.addedBy context network routes }

/-- Without routes a graph stays as it is. -/
theorem routeAll_nil (context : TextureContext) (network : Network) (graph : Graph) :
    graph.routeAll context network [] = graph := by
  -- Without routes no node is changed, and none comes in.
  have stays : Route.changeAll context network [] = id := rfl
  simp [routeAll, addedBy, stays]

/-- A graph takes routes when its nodes have different names, each route leads to one of them and no two to the
same, and what comes in with a route has a new name. -/
structure Takes (graph : Graph) (routes : List Route) : Prop where
  named : (graph.nodes.map (·.name)).Nodup
  distinct : (routes.map Route.leaf).Nodup
  present : ∀ route ∈ routes, route.leaf ∈ graph.nodes.map (·.name)
  reader : ∀ route ∈ routes, Texture.readerName route.leaf ∉ graph.nodes.map (·.name)
  remapper : ∀ route ∈ routes, Texture.remapperName route.leaf ∉ graph.nodes.map (·.name)

variable {context : TextureContext} {network : Network} {graph : Graph} {routes : List Route} {route : Route}

/-- In a graph whose nodes have different names, a name is that of the one node that bears it. -/
theorem node?_eq_some_iff (named : (graph.nodes.map (·.name)).Nodup) {name : String} {node : Node} :
    graph.node? name = some node ↔ node ∈ graph.nodes ∧ node.name = name :=
  -- No two nodes have one name.
  find?_eq_some_iff_of_nodup named

/-- With one more route come in the nodes that come in for its node. -/
theorem addedBy_concat (named : (graph.nodes.map (·.name)).Nodup) {node : Node} (inside : node ∈ graph.nodes)
    (isLeaf : node.name = route.leaf) :
    graph.addedBy context network (routes ++ [route]) =
      graph.addedBy context network routes ++ route.added context network node := by
  -- The last route adds its nodes after those of the others.
  simp [addedBy, (node?_eq_some_iff named).2 ⟨inside, isLeaf⟩]

/-- What comes in with routes comes in with one of them, for the node to which that leads. -/
theorem mem_addedBy (named : (graph.nodes.map (·.name)).Nodup) {node : Node} :
    node ∈ graph.addedBy context network routes ↔
      ∃ route ∈ routes, ∃ old ∈ graph.nodes, old.name = route.leaf ∧ node ∈ route.added context network old := by
  -- Each route adds nodes for the one node that it leads to.
  simp only [addedBy, List.mem_flatMap, Option.mem_toList, node?_eq_some_iff named, and_assoc]

/-- What comes in has the name of the reader or the remapper of a route's node. -/
theorem name_of_mem_addedBy (named : (graph.nodes.map (·.name)).Nodup) {node : Node}
    (member : node ∈ graph.addedBy context network routes) :
    ∃ route ∈ routes, node.name = Texture.readerName route.leaf ∨ node.name = Texture.remapperName route.leaf := by
  -- What comes in is made by a route that leads to a node of the graph.
  obtain ⟨route, inside, old, _, isLeaf, new⟩ := (mem_addedBy named).1 member
  exact ⟨route, inside, isLeaf ▸ Route.name_of_mem_added new⟩

/-- The names of a graph with routes taken are its own and those of what comes in. -/
theorem names_routeAll :
    (graph.routeAll context network routes).nodes.map (·.name) =
      graph.nodes.map (·.name) ++ (graph.addedBy context network routes).map (·.name) := by
  -- Changing a node leaves its name.
  rw [routeAll, List.map_append, List.map_map]
  congr 1
  exact List.map_congr_left fun node _ => Route.name_changeAll

namespace Takes

/-- A graph that takes routes and one more takes the first ones. -/
theorem init (takes : graph.Takes (routes ++ [route])) : graph.Takes routes where
  -- A part of the routes asks for less.
  named := takes.named
  distinct := List.Nodup.of_append_left (List.map_append ▸ takes.distinct)
  present other inside := takes.present other (List.mem_append_left _ inside)
  reader other inside := takes.reader other (List.mem_append_left _ inside)
  remapper other inside := takes.remapper other (List.mem_append_left _ inside)

/-- One more route leads to another node than the first ones. -/
theorem leaf_ne (takes : graph.Takes (routes ++ [route])) {other : Route} (inside : other ∈ routes) :
    other.leaf ≠ route.leaf := by
  -- The leaf names of all routes are distinct.
  have distinct := takes.distinct
  rw [List.map_append, List.nodup_append] at distinct
  exact distinct.2.2 _ (List.mem_map_of_mem inside) _ (List.mem_map_of_mem List.mem_cons_self)

/-- What comes in with one more route has names that are new once the first ones are taken. -/
theorem fresh (takes : graph.Takes (routes ++ [route])) (context : TextureContext) (network : Network) :
    Texture.readerName route.leaf ∉ (graph.routeAll context network routes).nodes.map (·.name) ∧
      Texture.remapperName route.leaf ∉ (graph.routeAll context network routes).nodes.map (·.name) := by
  have last : route ∈ routes ++ [route] := List.mem_append_right _ List.mem_cons_self
  simp only [names_routeAll, List.mem_append, not_or]
  refine ⟨⟨takes.reader route last, fun new => ?_⟩, takes.remapper route last, fun new => ?_⟩
  -- What came in before has its name from another leaf.
  · obtain ⟨node, inside, same⟩ := List.mem_map.1 new
    obtain ⟨other, before, reader | remapper⟩ := name_of_mem_addedBy takes.named inside
    · exact takes.leaf_ne before (Texture.readerName_inj (reader.symm.trans same))
    · exact Texture.readerName_ne_remapperName _ _ (same.symm.trans remapper)
  · obtain ⟨node, inside, same⟩ := List.mem_map.1 new
    obtain ⟨other, before, reader | remapper⟩ := name_of_mem_addedBy takes.named inside
    · exact Texture.readerName_ne_remapperName _ _ (reader.symm.trans same)
    · exact takes.leaf_ne before (Texture.remapperName_inj (remapper.symm.trans same))

/-- With routes taken, the nodes of a graph still have different names. -/
theorem nodup_routeAll (takes : graph.Takes routes) :
    ((graph.routeAll context network routes).nodes.map (·.name)).Nodup := by
  -- Routes are added at the end, and what comes in by the last one has fresh names.
  induction routes using List.reverseRecOn with
  | nil => simpa [names_routeAll, addedBy] using takes.named
  | append_singleton routes route ih =>
    obtain ⟨node, inside, isLeaf⟩ := List.mem_map.1
      (takes.present route (List.mem_append_right _ List.mem_cons_self))
    rw [names_routeAll, addedBy_concat takes.named inside isLeaf, List.map_append, ← List.append_assoc,
      ← names_routeAll, List.nodup_append']
    refine ⟨ih takes.init, Route.nodup_added, fun name before new => ?_⟩
    obtain ⟨reader, remapper⟩ := takes.fresh context network
    obtain ⟨other, isNew, rfl⟩ := List.mem_map.1 new
    rcases Route.name_of_mem_added isNew with same | same
    · exact reader (isLeaf ▸ same ▸ before)
    · exact remapper (isLeaf ▸ same ▸ before)

end Takes

/-- Taking one more route is routing its node in the graph in which the others are taken. -/
theorem routeNode_routeAll (takes : graph.Takes (routes ++ [route])) :
    (Texture.routeNode context network route.path (network.typeOf route.path)
        (Texture.resolved context route.reference) (graph.routeAll context network routes)).1 =
      graph.routeAll context network (routes ++ [route]) := by
  have last : route ∈ routes ++ [route] := List.mem_append_right _ List.mem_cons_self
  obtain ⟨node, inside, isLeaf⟩ := List.mem_map.1 (takes.present route last)
  obtain ⟨front, back, split⟩ := List.append_of_mem inside
  -- No other node has the name, and none of the first routes leads to this one.
  have named := takes.named
  simp only [split, List.map_append, List.map_cons, isLeaf, List.nodup_append, List.nodup_cons,
    List.mem_cons, List.mem_map, not_exists, not_and] at named
  obtain ⟨_, ⟨behind, _⟩, ahead⟩ := named
  have first : ∀ other ∈ front, other.name ≠ route.leaf := fun other inside =>
    ahead other.name ⟨other, inside, rfl⟩ route.leaf (.inl rfl)
  have stays : Route.changeAll context network routes node = node :=
    Route.changeAll_of_apart fun other before => isLeaf ▸ takes.leaf_ne before
  have before : graph.routeAll context network routes =
      { graph with nodes := front.map (Route.changeAll context network routes) ++ node ::
        (back.map (Route.changeAll context network routes) ++ graph.addedBy context network routes) } := by
    simp [routeAll, split, stays]
  -- The names of the added nodes are free, so the step can be taken at the split.
  have ⟨reader, remapper⟩ := takes.fresh context network
  rw [before] at reader remapper ⊢
  rw [Route.routeNode_split (fun other inside => ?_) isLeaf reader remapper, routeAll, Graph.mk.injEq]
  · have others {nodes : List Node} (apart : ∀ other ∈ nodes, other.name ≠ route.leaf) :
        nodes.map (Route.changeAll context network (routes ++ [route])) =
          nodes.map (Route.changeAll context network routes) :=
      List.map_congr_left fun other inside => Route.changeAll_concat (apart other inside)
    simp only [split, List.map_append, List.map_cons, others first, others behind,
      Route.changeAll_of_mem takes.distinct last isLeaf, addedBy_concat takes.named inside isLeaf,
      List.append_assoc, List.cons_append, and_self]
  · obtain ⟨old, there, rfl⟩ := List.mem_map.1 inside
    rw [Route.name_changeAll]
    exact first old there

end Document.Graph

end ShadeBake
