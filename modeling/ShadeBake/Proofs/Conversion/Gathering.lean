import ShadeBake.Proofs.Conversion.Pruning

/-! What a collection collects: exactly the nodes that the given one draws on through nodes not visited before.
It warns once of each input on the way whose source does not exist. -/

namespace ShadeBake

namespace Network

/-- A node reads another afresh when it reads it and that one was not visited before. -/
def ReadsAfresh (network : Network) (visited : List String) (node source : String) : Prop :=
  -- Whether the node itself was visited does not matter.
  network.Reads node source ∧ source ∉ visited

/-- An input of a node dangles when it is connected to a node that does not exist. -/
def Dangles (network : Network) (node input : String) (connection : Connection) : Prop :=
  network.input? node input = some connection ∧ network.hasNode connection.source = false

/-- The inputs of a node that dangle, in order, each with the node and its connection. -/
def dangling (network : Network) (node : String) : List (String × String × Connection) :=
  ((network.inputs node).filter fun entry => !network.hasNode entry.2.source).map fun entry => (node, entry)

/-- What is listed as dangling for a node are its inputs that dangle. -/
theorem mem_dangling_iff {network : Network} {node other input : String} {connection : Connection} :
    (other, input, connection) ∈ network.dangling node ↔ other = node ∧ network.Dangles node input connection := by
  -- A dangling connection is one of the node's own whose source is missing.
  unfold dangling Dangles
  rw [List.mem_map]
  constructor
  · rintro ⟨⟨name, read⟩, listed, same⟩
    cases same
    obtain ⟨inside, missing⟩ := List.mem_filter.1 listed
    exact ⟨rfl, mem_inputs_iff.1 inside, by simpa using missing⟩
  · rintro ⟨rfl, connected, missing⟩
    exact ⟨(input, connection), List.mem_filter.2 ⟨mem_inputs_iff.2 connected, by simpa using missing⟩, rfl⟩

/-- No input is listed twice as dangling for a node. -/
theorem dangling_nodup (network : Network) (node : String) : (network.dangling node).Nodup := by
  -- A node has each input once.
  have distinct : (network.inputs node).Nodup := List.Nodup.of_map _ (network.inputNames_nodup node)
  refine (distinct.filter _).map fun first second same => ?_
  exact (Prod.mk.inj same).2

/-- A node's warnings are one for each of its inputs that dangle. -/
theorem unknownSources_eq (network : Network) (node : String) :
    network.unknownSources node = (network.dangling node).map fun d => .unknownNode d.2.2.source := by
  -- One warning is given for each connection without a source, in the order of the inputs.
  unfold unknownSources dangling
  rw [List.map_map]
  induction network.inputs node with
  | nil => rfl
  | cons entry rest ih =>
    by_cases present : network.hasNode entry.2.source = true
    · simp [present, ih]
    · simp [present, ih]

/-- No input of distinct nodes is listed twice as dangling. -/
theorem flatMap_dangling_nodup {network : Network} {nodes : List String} (distinct : nodes.Nodup) :
    (nodes.flatMap network.dangling).Nodup := by
  refine List.nodup_flatMap.2 ⟨fun node _ => network.dangling_nodup node, distinct.imp fun apart => ?_⟩
  -- Each listed input comes with its node.
  intro ⟨owner, _, _⟩ first second
  exact apart ((mem_dangling_iff.1 first).1.symm.trans (mem_dangling_iff.1 second).1)

/-- No name is found twice among names. -/
theorem fresh_nodup (network : Network) (visited names : List String) : (network.fresh visited names).Nodup := by
  induction names generalizing visited with
  | nil => exact List.nodup_nil
  | cons head rest ih =>
    by_cases new : network.hasNode head = true ∧ head ∉ visited
    -- A name that was taken counts as visited, so it is not taken again.
    · rw [fresh_cons_of_new new.1 new.2]
      exact List.nodup_cons.2 ⟨fun again => (mem_fresh again).2.1 (by simp), ih _⟩
    · rw [fresh_cons_of_not fun there => Classical.byContradiction fun unseen => new ⟨there, unseen⟩]
      exact ih visited

/-- No name is found twice from a stack. -/
theorem gatherFrom_nodup (network : Network) (visited stack : List String) :
    (network.gatherFrom visited stack).1.Nodup := by
  fun_induction network.gatherFrom visited stack with
  | case1 visited => exact List.nodup_nil
  | case2 visited node rest found later warnings result ih =>
    rw [result] at ih
    refine List.nodup_append.2 ⟨network.fresh_nodup visited _, ih, fun first now second afterwards same => ?_⟩
    -- What was found counts as visited for what is found later.
    have unseen : second ∉ visited ++ found :=
      not_mem_of_mem_gatherFrom (by rw [result]; exact afterwards)
    exact unseen (List.mem_append_right _ (same ▸ now))

/-- What is found from a stack is read from a node on it through a chain of nodes that were not visited. -/
theorem chain_of_mem_gatherFrom {network : Network} {visited stack : List String} {name : String}
    (member : name ∈ (network.gatherFrom visited stack).1) :
    ∃ root ∈ stack, Relation.TransGen (network.ReadsAfresh visited) root name := by
  fun_induction network.gatherFrom visited stack with
  | case1 visited => simp at member
  | case2 visited node rest found later warnings result ih =>
    -- The sources that were found are read by the node and were not visited.
    have reads : ∀ source ∈ found, network.ReadsAfresh visited node source := by
      intro source inside
      obtain ⟨present, unseen, listed⟩ := mem_fresh inside
      exact ⟨mem_sources_iff.1 (List.mem_filter.2 ⟨listed, present⟩), unseen⟩
    rcases List.mem_append.1 member with now | afterwards
    · exact ⟨node, List.mem_cons_self, .single (reads name now)⟩
    · obtain ⟨root, inside, later⟩ := ih (by rw [result]; exact afterwards)
      -- What is read afresh when more was visited is read afresh now.
      have chain : Relation.TransGen (network.ReadsAfresh visited) root name :=
        Relation.TransGen.mono
          (fun _ _ afresh => ⟨afresh.1, fun seen => afresh.2 (List.mem_append_left _ seen)⟩) _ _ later
      rcases List.mem_append.1 inside with source | pending
      · exact ⟨node, List.mem_cons_self, .head (reads root (List.mem_reverse.1 source)) chain⟩
      · exact ⟨root, List.mem_cons_of_mem _ pending, chain⟩

/-- Found from a stack are exactly the nodes that are read from a node on it through a chain of nodes that were
not visited. -/
theorem mem_gatherFrom_iff {network : Network} {visited stack : List String} {name : String} :
    name ∈ (network.gatherFrom visited stack).1 ↔
      ∃ root ∈ stack, Relation.TransGen (network.ReadsAfresh visited) root name := by
  constructor
  · exact chain_of_mem_gatherFrom
  · rintro ⟨root, inside, chain⟩
    -- Along the chain each node is found because the one before it is, or is the root.
    induction chain with
    | single afresh => exact (gatherFrom_closed (.inl inside) afresh.1).resolve_left afresh.2
    | tail _ afresh ih => exact (gatherFrom_closed (.inr ih) afresh.1).resolve_left afresh.2

/-- The warnings on the way are those for the nodes on the stack and for the found ones, in the order in which
these were looked at. -/
theorem warnings_gatherFrom (network : Network) (visited stack : List String) :
    ∃ looked : List String, looked.Perm (stack ++ (network.gatherFrom visited stack).1) ∧
      (network.gatherFrom visited stack).2 = looked.flatMap network.unknownSources := by
  fun_induction network.gatherFrom visited stack with
  | case1 visited => exact ⟨[], .refl _, rfl⟩
  | case2 visited node rest found later warnings result ih =>
    rw [result] at ih
    obtain ⟨looked, order, same⟩ := ih
    refine ⟨node :: looked, ?_, by rw [List.flatMap_cons, ← same]⟩
    -- What was found for the node is looked at before the rest of the stack, the last first.
    have reordered : (found.reverse ++ rest).Perm (rest ++ found) :=
      ((List.reverse_perm found).append_right rest).trans List.perm_append_comm
    rw [List.cons_append, ← List.append_assoc]
    exact List.Perm.cons node (order.trans (reordered.append_right later))

/-- A collection adds to the collected nodes and to the visited ones exactly those nodes that the given one reads
through a chain of nodes that were not visited. If the given one was visited itself, the collection warns exactly
once of each input of it and of these nodes that dangles. -/
theorem gather_collects (network : Network) (start : String) (nodes visited : NameSet) :
    let gathered := network.gather start nodes visited
    let reached := Relation.TransGen (network.ReadsAfresh (Dict.keys visited)) start
    (∀ name, name ∈ Dict.keys gathered.nodes ↔ name ∈ Dict.keys nodes ∨ reached name) ∧
    (∀ name, name ∈ Dict.keys gathered.visited ↔ name ∈ Dict.keys visited ∨ reached name) ∧
    (start ∈ Dict.keys visited →
      ∃ dangling : List (String × String × Connection), dangling.Nodup ∧
        (∀ node input connection, (node, input, connection) ∈ dangling ↔
          (node = start ∨ reached node) ∧ network.Dangles node input connection) ∧
        gathered.warnings = dangling.map fun d => .unknownNode d.2.2.source) := by
  -- Both sets are extended by what is found, which is all that is reached without passing a visited node.
  intro gathered reached
  have found : ∀ name, name ∈ (network.gatherFrom (Dict.keys visited) [start]).1 ↔ reached name := by
    intro name
    rw [mem_gatherFrom_iff]
    simp [reached]
  refine ⟨fun name => ?_, fun name => ?_, fun seen => ?_⟩
  · exact NameSet.mem_keys_foldl_add.trans (or_comm.trans (or_congr_right (found name)))
  · exact NameSet.mem_keys_foldl_add.trans (or_comm.trans (or_congr_right (found name)))
  · obtain ⟨looked, order, same⟩ := network.warnings_gatherFrom (Dict.keys visited) [start]
    -- The given node was visited and is not found again, so no node is looked at twice.
    have distinct : looked.Nodup := by
      refine order.nodup_iff.2 (List.nodup_cons.2 ⟨fun again => ?_, network.gatherFrom_nodup _ _⟩)
      exact not_mem_of_mem_gatherFrom again seen
    have inside : ∀ node, node ∈ looked ↔ node = start ∨ reached node := by
      intro node
      rw [order.mem_iff, List.singleton_append, List.mem_cons, found]
    refine ⟨looked.flatMap network.dangling, flatMap_dangling_nodup distinct, fun node input connection => ?_, ?_⟩
    · rw [List.mem_flatMap]
      constructor
      · rintro ⟨owner, listed, dangles⟩
        obtain ⟨rfl, dangles⟩ := mem_dangling_iff.1 dangles
        exact ⟨(inside _).1 listed, dangles⟩
      · rintro ⟨reaches, dangles⟩
        exact ⟨node, (inside node).2 reaches, mem_dangling_iff.2 ⟨rfl, dangles⟩⟩
    · show (network.gatherFrom (Dict.keys visited) [start]).2 = _
      rw [same, List.map_flatMap, funext network.unknownSources_eq]

namespace Circular

/-- A network in which nodes feed each other in circles. -/
def network : Network where
  materialPath := "/M"
  nodes := Dict.ofList [
    ("/M/a", ⟨"ND_add_float", Dict.empty, Dict.ofList [("in1", ⟨"/M/b", "out"⟩), ("in2", ⟨"/M/gone", "out"⟩)]⟩),
    ("/M/b", ⟨"ND_add_float", Dict.empty, Dict.ofList [("in1", ⟨"/M/a", "out"⟩), ("in2", ⟨"/M/c", "out"⟩)]⟩),
    ("/M/c", ⟨"ND_mix_float", Dict.empty, Dict.ofList
      [("bg", ⟨"/M/b", "out"⟩), ("fg", ⟨"/M/d", "out"⟩), ("mix", ⟨"/M/gone", "out"⟩)]⟩),
    ("/M/d", ⟨"ND_sin_float", Dict.empty, Dict.ofList [("in", ⟨"/M/e", "out"⟩)]⟩),
    ("/M/e", ⟨"ND_constant_float", Dict.empty, Dict.empty⟩)]
  terminals := Dict.empty

/-- From a node that was visited two others are collected, and not what only another visited one reads. Of these
three nodes two inputs dangle, so the missing node is warned of twice. -/
theorem gather_collects_circle :
    let visited := NameSet.ofList ["/M/a", "/M/d"]
    "/M/a" ∈ Dict.keys visited ∧
    (∀ name, Relation.TransGen (network.ReadsAfresh (Dict.keys visited)) "/M/a" name ↔
      name = "/M/b" ∨ name = "/M/c") ∧
    ∃ dangling : List (String × String × Connection), dangling.Nodup ∧
      (∀ node input connection, (node, input, connection) ∈ dangling ↔
        (node = "/M/a" ∨ node = "/M/b" ∨ node = "/M/c") ∧ network.Dangles node input connection) ∧
      dangling.map (fun d => Warning.unknownNode d.2.2.source) =
        [.unknownNode "/M/gone", .unknownNode "/M/gone"] := by
  -- The run is evaluated, and the general statement then says what was reached.
  intro visited
  have seen : "/M/a" ∈ Dict.keys visited := NameSet.mem_keys_ofList.2 List.mem_cons_self
  have collected : (network.gather "/M/a" Dict.empty visited).nodes.keys = ["/M/b", "/M/c"] := by cbv
  have warned : (network.gather "/M/a" Dict.empty visited).warnings =
      [.unknownNode "/M/gone", .unknownNode "/M/gone"] := by cbv
  obtain ⟨nodes, _, warns⟩ := gather_collects network "/M/a" Dict.empty visited
  -- The keys that the run collects are the names that the statement describes.
  have reached : ∀ name, Relation.TransGen (network.ReadsAfresh (Dict.keys visited)) "/M/a" name ↔
      name = "/M/b" ∨ name = "/M/c" := by
    intro name
    have member := nodes name
    rw [collected] at member
    simpa [Dict.keys, Dict.empty] using member.symm
  obtain ⟨dangling, distinct, lists, same⟩ := warns seen
  refine ⟨seen, reached, dangling, distinct, fun node input connection => ?_, same.symm.trans warned⟩
  rw [lists, reached]

end Circular

end Network

end ShadeBake
