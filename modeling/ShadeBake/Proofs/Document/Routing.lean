import ShadeBake.Texture

/-! Routing texture reads changes the inputs of nodes and adds nodes of two kinds, so that what does not
depend on inputs holds of all nodes if it holds of those that there were and of the two kinds. -/

namespace ShadeBake

namespace Document

/-- An element of a list whose first picked one was changed was there, or is that one changed. -/
theorem mem_modifyFirst {α : Type} {pick : α → Bool} {change : α → α} {list : List α} {element : α}
    (member : element ∈ modifyFirst pick change list) :
    element ∈ list ∨ ∃ old ∈ list, pick old = true ∧ element = change old := by
  induction list with
  | nil => simp [modifyFirst] at member
  | cons head rest ih =>
    simp only [modifyFirst] at member
    split at member
    -- The head is the one that is changed, and the rest stays.
    · rename_i picked
      rcases List.mem_cons.1 member with same | later
      · exact .inr ⟨head, List.mem_cons_self, picked, same⟩
      · exact .inl (List.mem_cons_of_mem _ later)
    · rcases List.mem_cons.1 member with same | later
      · exact .inl (same ▸ List.mem_cons_self)
      -- Nothing was changed so far, so the change is made in the rest.
      · rcases ih later with old | ⟨old, inside, picked, same⟩
        · exact .inl (List.mem_cons_of_mem _ old)
        · exact .inr ⟨old, List.mem_cons_of_mem _ inside, picked, same⟩

namespace Graph

/-- A node of a graph with one node added is that one, or one of another name that was there. -/
theorem mem_addNode {graph : Graph} {new node : Node} :
    node ∈ (graph.addNode new).nodes ↔ (node ∈ graph.nodes ∧ node.name ≠ new.name) ∨ node = new := by
  -- A node that is added replaces the one of its name.
  simp [addNode, putNode]

/-- A node of a graph with one node changed was there, or is the node of that name changed. -/
theorem mem_modifyNode {graph : Graph} {name : String} {change : Node → Node} {node : Node}
    (member : node ∈ (graph.modifyNode name change).nodes) :
    node ∈ graph.nodes ∨ ∃ old ∈ graph.nodes, old.name = name ∧ node = change old := by
  -- A node is kept, or it is the one that was changed.
  rcases mem_modifyFirst member with there | ⟨old, inside, picked, same⟩
  · exact .inl there
  · exact .inr ⟨old, inside, of_decide_eq_true picked, same⟩

end Graph

/-- Setting a literal on a node changes its inputs only. -/
theorem Node.setValue_eq (node : Node) (name : String) (value : Literal) (type : String) :
    ∃ inputs, node.setValue name value type = { node with inputs } := by
  -- The value is set in an input that is there, or in a new one.
  unfold Node.setValue
  split
  · exact ⟨_, rfl⟩
  · exact ⟨_, rfl⟩

end Document

open Document (Graph Node Input)

namespace Texture

/-- Nodes of different names get readers of different names. -/
theorem readerName_inj {name other : String} (same : readerName name = readerName other) : name = other := by
  -- Both names end in the same ending.
  have chars := congrArg String.toList same
  simp only [readerName, String.toList_append] at chars
  exact String.toList_inj.1 (List.append_cancel_right chars)

/-- Nodes of different names get remappers of different names. -/
theorem remapperName_inj {name other : String} (same : remapperName name = remapperName other) :
    name = other := by
  -- Both names end in the same ending.
  have chars := congrArg String.toList same
  simp only [remapperName, String.toList_append] at chars
  exact String.toList_inj.1 (List.append_cancel_right chars)

/-- No reader has the name of a remapper. -/
theorem readerName_ne_remapperName (name other : String) : readerName name ≠ remapperName other := by
  intro same
  -- The two names end in different characters.
  have last := congrArg (fun text : String => text.toList.getLast?) same
  simp [readerName, remapperName, String.toList_append, List.getLast?_append] at last

/-- A node is not its own reader. -/
theorem readerName_ne (name : String) : name ≠ readerName name := by
  -- The reader's name is longer.
  intro same
  have length := congrArg (fun text : String => text.toList.length) same
  simp [readerName, String.toList_append] at length

/-- A node is not its own remapper. -/
theorem remapperName_ne (name : String) : name ≠ remapperName name := by
  -- The remapper's name is longer.
  intro same
  have length := congrArg (fun text : String => text.toList.length) same
  simp [remapperName, String.toList_append] at length

end Texture

namespace RoutedDocument

variable (context : TextureContext) (network : Network) (routed : RoutedDocument) (path : String)

/-- Routing a path changes nothing in the graphs, or routes the node of its leaf in one of them. -/
theorem graphs_routePath :
    (routed.routePath context network path).document.graphs = routed.document.graphs ∨
      ∃ position graph file, routed.document.graphs[position]? = some graph ∧
        (routed.routePath context network path).document.graphs = routed.document.graphs.modify position
          fun _ => (Texture.routeNode context network path (network.typeOf path) file graph).1 := by
  unfold routePath
  -- Only where a graph with the node is found, that graph is changed.
  split
  · split
    · exact .inl rfl
    · exact .inl rfl
    · split
      · exact .inl rfl
      · split
        · exact .inl rfl
        · rename_i position _ _ graph there
          exact .inr ⟨position, graph, _, there, rfl⟩
  · exact .inl rfl

/-- A graph after routing a path was there before, or is one that was with a node routed. -/
theorem mem_graphs_routePath {graph : Graph}
    (member : graph ∈ (routed.routePath context network path).document.graphs) :
    graph ∈ routed.document.graphs ∨ ∃ old ∈ routed.document.graphs, ∃ file,
      graph = (Texture.routeNode context network path (network.typeOf path) file old).1 := by
  -- A step changes the graph at one position, or none.
  rcases routed.graphs_routePath context network path with same | ⟨position, old, file, there, changed⟩
  · exact .inl (same ▸ member)
  · rw [changed] at member
    obtain ⟨index, found⟩ := List.mem_iff_getElem?.1 member
    simp only [List.getElem?_modify] at found
    obtain ⟨other, isOther, same⟩ := Option.map_eq_some_iff.1 found
    split at same
    · exact .inr ⟨old, List.mem_of_getElem? there, file, same.symm⟩
    · exact .inl (same ▸ List.mem_of_getElem? isOther)

end RoutedDocument

section inputs

variable {context : TextureContext} {holds : Node → Prop}
  (inputs : ∀ node inputs, holds node → holds { node with inputs })

include inputs

/-- What does not depend on inputs holds of all nodes of a graph once inputs of one are changed. -/
theorem Document.Graph.forall_modifyNode {graph : Graph} {name : String} {change : Node → Node}
    (changes : ∀ node, ∃ inputs, change node = { node with inputs })
    (all : ∀ node ∈ graph.nodes, holds node) : ∀ node ∈ (graph.modifyNode name change).nodes, holds node := by
  -- The changed node is an old one with other inputs, to which the property is indifferent.
  intro node member
  rcases Graph.mem_modifyNode member with there | ⟨old, inside, _, rfl⟩
  · exact all node there
  · obtain ⟨changed, same⟩ := changes old
    exact same ▸ inputs old changed (all old inside)

namespace Texture

/-- Setting the file of a texture node changes inputs only. -/
theorem forall_setFile (graph : Graph) (name text : String) (all : ∀ node ∈ graph.nodes, holds node) :
    ∀ node ∈ (setFile graph name text).nodes, holds node :=
  -- Only the file input of one node is written.
  Graph.forall_modifyNode inputs (fun node => node.setValue_eq "file" (.string text) "filename") all

/-- Giving a texture node coordinates changes inputs and adds a reader at most. -/
theorem forall_withCoordinates (path type name : String)
    (reads : ∀ primvar, holds (Texture.readerNode context name primvar)) {graph : Graph}
    (all : ∀ node ∈ graph.nodes, holds node) :
    ∀ node ∈ (withCoordinates context path type name graph).1.nodes, holds node := by
  -- The graph is left alone, or a reader comes in and one node has another input.
  unfold withCoordinates
  split
  · exact all
  · refine Graph.forall_modifyNode inputs (fun node => ⟨_, rfl⟩) fun node member => ?_
    rcases Graph.mem_addNode.1 member with ⟨there, _⟩ | rfl
    · exact all node there
    · exact reads _

/-- Routing a texture node changes inputs, and adds a reader and a remapper at most. -/
theorem forall_routeNode (network : Network) (node type : String) (path : Path)
    (reads : ∀ primvar, holds (Texture.readerNode context (NodePath.leaf node) primvar))
    (remaps : ∀ source, holds (Texture.remapperNode context (NodePath.leaf node) source)) {graph : Graph}
    (all : ∀ node ∈ graph.nodes, holds node) :
    ∀ other ∈ (routeNode context network node type path graph).1.nodes, holds other := by
  have filed := fun text => forall_setFile inputs graph (NodePath.leaf node) text all
  unfold routeNode
  split
  -- A native texture gets a remapper behind its coordinates.
  · have coordinates := forall_withCoordinates inputs node type (NodePath.leaf node) reads (filed path)
    refine Graph.forall_modifyNode inputs (fun node => ⟨_, rfl⟩) fun other member => ?_
    rcases Graph.mem_addNode.1 member with ⟨there, _⟩ | rfl
    · exact coordinates other there
    · exact remaps _
  · exact forall_withCoordinates inputs node type (NodePath.leaf node) reads (filed _)

end Texture

/-- What does not depend on inputs holds of all nodes in the graphs of a routed document if it holds of those
of the document and of all readers and remappers. -/
theorem Document.forall_routeTextures (network : Network) (paths : NameSet)
    (reads : ∀ name primvar, holds (Texture.readerNode context name primvar))
    (remaps : ∀ name source, holds (Texture.remapperNode context name source)) {document : Document}
    (all : ∀ graph ∈ document.graphs, ∀ node ∈ graph.nodes, holds node) :
    ∀ graph ∈ (document.routeTextures context network paths).document.graphs,
      ∀ node ∈ graph.nodes, holds node := by
  unfold routeTextures
  -- The invariant goes from one path to the next.
  refine List.foldlRecOn (motive := fun routed : RoutedDocument =>
    ∀ graph ∈ routed.document.graphs, ∀ node ∈ graph.nodes, holds node) _ _ all
      fun routed all path _ graph member => ?_
  rcases routed.mem_graphs_routePath context network path member with there | ⟨old, inside, file, rfl⟩
  · exact all graph there
  · exact Texture.forall_routeNode inputs network path _ file (reads _) (remaps _) (all old inside)

end inputs

end ShadeBake
