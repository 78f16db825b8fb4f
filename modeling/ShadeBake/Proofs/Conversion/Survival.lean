import ShadeBake.Proofs.Conversion.Provenance

/-! Pruning deletes the candidates that no anchor draws on, so that no survivor loses a source, and the
terminal and the nodes met keep their records. -/

namespace ShadeBake

namespace Network

/-- Deleting nodes leaves no record of them, and all other records stay. -/
theorem get?_deleteNodes (network : Network) (names : List String) (node : String) :
    (network.deleteNodes names).nodes.get? node
      = if node ∈ names then none else network.nodes.get? node := by
  unfold deleteNodes
  induction names generalizing network with
  | nil => simp
  | cons name rest ih =>
    rw [List.foldl_cons, ih, get?_deleteNode]
    -- A node is deleted at the head or somewhere behind it.
    by_cases later : node ∈ rest
    · simp [later]
    · by_cases same : node = name
      · simp [same]
      · simp [later, same]

/-- Deleting nodes leaves all bindings. -/
@[simp] theorem terminals_deleteNodes (network : Network) (names : List String) :
    (network.deleteNodes names).terminals = network.terminals := by
  -- Nodes are deleted one by one, and a deletion is no change to the bindings.
  unfold deleteNodes
  induction names generalizing network with
  | nil => rfl
  | cons name rest ih => rw [List.foldl_cons, ih]; rfl

/-- Deleting nodes leaves the path of the material. -/
@[simp] theorem materialPath_deleteNodes (network : Network) (names : List String) :
    (network.deleteNodes names).materialPath = network.materialPath := by
  -- Nodes are deleted one by one, and a deletion is no change to the path.
  unfold deleteNodes
  induction names generalizing network with
  | nil => rfl
  | cons name rest ih => exact ih (network.deleteNode name)

/-- Exactly the deleted nodes lose their records. -/
theorem mem_nodeNames_deleteNodes {network : Network} {names : List String} {node : String} :
    node ∈ (network.deleteNodes names).nodeNames ↔ node ∉ names ∧ node ∈ network.nodeNames := by
  -- A record is left exactly if its node was not deleted.
  rw [mem_nodeNames_iff, mem_nodeNames_iff, get?_deleteNodes]
  by_cases deleted : node ∈ names
  · simp [deleted]
  · simp [deleted]

/-- Deleted nodes do not exist, and all others exist if they did. -/
theorem hasNode_deleteNodes (network : Network) (names : List String) (node : String) :
    (network.deleteNodes names).hasNode node = (!decide (node ∈ names) && network.hasNode node) := by
  -- The type is looked up in the record that is left, if any.
  unfold hasNode typeOf type?
  rw [get?_deleteNodes]
  by_cases deleted : node ∈ names
  · simp [deleted]
  · simp [deleted]

/-- Deleted nodes have no connections, and all other connections stay. -/
theorem input?_deleteNodes (network : Network) (names : List String) (node slot : String) :
    (network.deleteNodes names).input? node slot
      = if node ∈ names then none else network.input? node slot := by
  -- The connection is looked up in the record that is left, if any.
  unfold input?
  rw [get?_deleteNodes]
  by_cases deleted : node ∈ names
  · simp [deleted]
  · simp [deleted]

variable {network : Network} {terminal : String} {candidates keep : NameSet}

/-- The anchors are the terminal and the nodes that are kept or no candidates. -/
theorem mem_anchors_iff {node : String} :
    node ∈ network.anchors terminal candidates keep ↔
      node = terminal ∨ (node ∈ network.nodeNames ∧
        (node ∈ Dict.keys keep ∨ node ∉ Dict.keys candidates)) := by
  -- The list is spelled out, and only the order of the alternatives differs.
  simp only [anchors, List.mem_append, List.mem_filter, List.mem_singleton, Bool.or_eq_true,
    Bool.not_eq_true', ← Dict.contains_iff, Bool.not_eq_true]
  rw [or_comm (a := candidates.contains node = false), or_comm (b := node = terminal)]

/-- Exactly the existing candidates that no anchor draws on are pruned. -/
theorem mem_prunable_iff {node : String} :
    node ∈ network.prunable terminal candidates keep ↔
      node ∈ Dict.keys candidates ∧ network.hasNode node = true ∧
        ∀ anchor ∈ network.anchors terminal candidates keep, ¬network.DrawsOn anchor node := by
  simp only [prunable, List.mem_filter, Bool.and_eq_true, Bool.not_eq_true']
  -- Unused means that the node is not reachable from the anchors.
  rw [← Bool.not_eq_true, mem_reachable_iff]
  constructor
  · rintro ⟨candidate, unused, present⟩
    exact ⟨candidate, present, fun anchor anchored draws => unused ⟨anchor, anchored, draws⟩⟩
  · rintro ⟨candidate, present, unused⟩
    exact ⟨candidate, fun ⟨anchor, anchored, draws⟩ => unused anchor anchored draws, present⟩

/-- An anchor is not pruned. -/
theorem not_mem_prunable_of_anchor {node : String}
    (anchored : node ∈ network.anchors terminal candidates keep) :
    node ∉ network.prunable terminal candidates keep :=
  -- Every node draws on itself.
  fun doomed => (mem_prunable_iff.1 doomed).2.2 node anchored .refl

/-- A node with a record that is not pruned is one that an anchor draws on, if it exists wherever it is a
candidate. -/
theorem exists_anchor {node : String}
    (present : node ∈ Dict.keys candidates → network.hasNode node = true)
    (recorded : node ∈ network.nodeNames)
    (survives : node ∉ network.prunable terminal candidates keep) :
    ∃ anchor ∈ network.anchors terminal candidates keep, network.DrawsOn anchor node := by
  by_cases candidate : node ∈ Dict.keys candidates
  -- A candidate that no anchor draws on would have been pruned.
  · refine Classical.byContradiction fun nothing => ?_
    refine survives (mem_prunable_iff.2 ⟨candidate, present candidate, ?_⟩)
    exact fun anchor anchored draws => nothing ⟨anchor, anchored, draws⟩
  · exact ⟨node, mem_anchors_iff.2 (.inr ⟨recorded, .inr candidate⟩), .refl⟩

/-- What a survivor reads survives. -/
theorem source_not_pruned {node name : String} {connection : Connection}
    (candidatesPresent : ∀ candidate ∈ Dict.keys candidates, network.hasNode candidate = true)
    (connected : (network.prune terminal candidates keep).1.input? node name = some connection) :
    connection.source ∉ network.prunable terminal candidates keep := by
  intro doomed
  obtain ⟨_, present, unused⟩ := mem_prunable_iff.1 doomed
  unfold prune at connected
  rw [input?_deleteNodes] at connected
  split at connected
  · simp at connected
  -- The reader survived because an anchor draws on it, and so draws on its source.
  · rename_i survives
    obtain ⟨anchor, anchored, draws⟩ :=
      exists_anchor (candidatesPresent node) (mem_nodeNames_of_input? connected) survives
    exact unused anchor anchored
      (draws.tail ⟨present, name, connection, connected, rfl⟩)

/-- A network is trimmed of some nodes when the others and the bindings stay, and each connection comes
from one of the same node and reads none of those nodes. The terminal is not one of them. -/
structure Trimmed (origin : Network) (terminal : String) (pruned : List String) (network : Network) :
    Prop where
  present : ∀ node, network.hasNode node = true ↔ origin.hasNode node = true ∧ node ∉ pruned
  records : ∀ node, node ∈ network.nodeNames ↔ node ∈ origin.nodeNames ∧ node ∉ pruned
  inputs : ∀ node name connection, network.input? node name = some connection →
    connection.source ∉ pruned ∧ ∃ earlier, origin.input? node earlier = some connection
  bindings : network.terminals = origin.terminals
  terminal_stays : terminal ∉ pruned

/-- A network is trimmed of no nodes when it is the same. -/
theorem Trimmed.refl (network : Network) (terminal : String) : Trimmed network terminal [] network where
  -- Nothing is removed, so all stays.
  present := by simp
  records := by simp
  inputs node name connection connected := ⟨List.not_mem_nil, name, connected⟩
  bindings := rfl
  terminal_stays := List.not_mem_nil

/-- A network that derives from another is trimmed of what is pruned. -/
theorem Derives.trimmed {origin : Network} (derives : Derives origin network)
    (candidatesPresent : ∀ candidate ∈ Dict.keys candidates, origin.hasNode candidate = true) :
    Trimmed origin terminal (network.prunable terminal candidates keep)
      (network.prune terminal candidates keep).1 := by
  have present : ∀ candidate ∈ Dict.keys candidates, network.hasNode candidate = true :=
    fun candidate inside => (derives.present candidate).trans (candidatesPresent candidate inside)
  -- Pruning deletes nodes and nothing else, so each part is a look-up after a deletion.
  constructor
  · intro node
    unfold prune
    rw [hasNode_deleteNodes, ← derives.present, Bool.and_eq_true, Bool.not_eq_true',
      decide_eq_false_iff_not, and_comm]
  · intro node
    unfold prune
    rw [mem_nodeNames_deleteNodes, derives.records, and_comm]
  · intro node name connection connected
    refine ⟨source_not_pruned present connected, ?_⟩
    unfold prune at connected
    rw [input?_deleteNodes] at connected
    split at connected
    · simp at connected
    · exact derives.inputs node name connection connected
  · unfold prune
    rw [terminals_deleteNodes, derives.bindings]
  -- The terminal is an anchor itself.
  · exact not_mem_prunable_of_anchor (mem_anchors_iff.2 (.inl rfl))

end Network

namespace Conversion

variable {σ : Type} (conversion : Conversion σ) (terminal : String)

/-- The record of the terminal survives pruning, and so do those of the nodes met. -/
theorem get?_finish {node : String} (stays : node = terminal ∨
      (node ∈ conversion.network.nodeNames ∧ node ∈ Dict.keys conversion.keep)) :
    (conversion.finish terminal).network.nodes.get? node = conversion.network.nodes.get? node := by
  -- A node that was met is an anchor, and anchors are not pruned.
  have anchored : node ∈ conversion.network.anchors terminal conversion.candidates conversion.keep :=
    Network.mem_anchors_iff.2 (stays.imp_right fun ⟨recorded, met⟩ => ⟨recorded, .inl met⟩)
  simp only [finish, Network.prune]
  rw [Network.get?_deleteNodes, if_neg (Network.not_mem_prunable_of_anchor anchored)]

/-- The connections of the terminal survive pruning. -/
theorem input?_finish (slot : String) :
    (conversion.finish terminal).network.input? terminal slot =
      conversion.network.input? terminal slot := by
  -- Pruning keeps the record of the terminal.
  unfold Network.input?
  rw [conversion.get?_finish terminal (.inl rfl)]

/-- The type of the terminal survives pruning. -/
theorem type?_finish :
    (conversion.finish terminal).network.type? terminal = conversion.network.type? terminal := by
  -- Pruning keeps the record of the terminal.
  unfold Network.type?
  rw [conversion.get?_finish terminal (.inl rfl)]

/-- The type of the terminal survives pruning, also if it is empty. -/
theorem typeOf_finish :
    (conversion.finish terminal).network.typeOf terminal = conversion.network.typeOf terminal := by
  -- The type is that of the terminal's record, if it has one.
  unfold Network.typeOf
  rw [conversion.type?_finish terminal]

/-- The parameters of the terminal survive pruning. -/
theorem parameter?_finish (name : String) :
    (conversion.finish terminal).network.parameter? terminal name =
      conversion.network.parameter? terminal name := by
  -- Pruning keeps the record of the terminal.
  unfold Network.parameter?
  rw [conversion.get?_finish terminal (.inl rfl)]

end Conversion

end ShadeBake
