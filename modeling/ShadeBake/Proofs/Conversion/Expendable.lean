import Mathlib.Order.Bounds.Defs
import ShadeBake.Proofs.Conversion.Survival

/-! What pruning deletes is the greatest set of candidates that nothing else reads. All other nodes keep
their records, and pruning a second time deletes nothing. -/

namespace ShadeBake

namespace Network

/-- A set of nodes is expendable when its nodes exist and are candidates, none of them is kept or the
terminal, and no node outside reads them. -/
structure Expendable (network : Network) (terminal : String) (candidates keep : NameSet)
    (nodes : Set String) : Prop where
  present : ∀ node ∈ nodes, network.hasNode node = true
  candidate : ∀ node ∈ nodes, node ∈ Dict.keys candidates
  unkept : ∀ node ∈ nodes, node ∉ Dict.keys keep
  apart : terminal ∉ nodes
  -- A record without a type is no reader, unless it is an anchor.
  unread : ∀ reader, reader ∉ nodes →
    network.hasNode reader = true ∨ reader ∈ network.anchors terminal candidates keep →
    ∀ slot connection, network.input? reader slot = some connection → connection.source ∉ nodes

variable {network : Network} {terminal : String} {candidates keep : NameSet} {nodes : Set String}

namespace Expendable

/-- An anchor is not expendable. -/
theorem not_mem_of_anchor (expendable : network.Expendable terminal candidates keep nodes) {anchor : String}
    (anchored : anchor ∈ network.anchors terminal candidates keep) : anchor ∉ nodes := by
  -- An anchor is the terminal, kept, or no candidate, and each of these excludes it.
  intro inside
  rcases mem_anchors_iff.1 anchored with rfl | ⟨_, kept | noCandidate⟩
  · exact expendable.apart inside
  · exact expendable.unkept anchor inside kept
  · exact noCandidate (expendable.candidate anchor inside)

/-- Nothing that an anchor draws on is expendable. -/
theorem not_mem_of_drawsOn (expendable : network.Expendable terminal candidates keep nodes)
    {anchor node : String} (anchored : anchor ∈ network.anchors terminal candidates keep)
    (draws : network.DrawsOn anchor node) : node ∉ nodes := by
  -- Along the chain each node is outside because the one before it is, and that one exists or is the anchor.
  induction draws with
  | refl => exact expendable.not_mem_of_anchor anchored
  | @tail reader source draws reads outside =>
    obtain ⟨_, slot, connection, connected, rfl⟩ := reads
    refine expendable.unread reader outside ?_ slot connection connected
    rcases draws.cases_tail with rfl | ⟨_, _, present, _⟩
    · exact .inr anchored
    · exact .inl present

/-- All that is expendable is pruned. -/
theorem subset_prunable (expendable : network.Expendable terminal candidates keep nodes) :
    nodes ⊆ {node | node ∈ network.prunable terminal candidates keep} :=
  -- No anchor draws on an expendable node, as those that read one are expendable too.
  fun node inside => mem_prunable_iff.2 ⟨expendable.candidate node inside, expendable.present node inside,
    fun _ anchored draws => expendable.not_mem_of_drawsOn anchored draws inside⟩

end Expendable

/-- What is pruned is expendable. -/
theorem expendable_prunable (network : Network) (terminal : String) (candidates keep : NameSet) :
    network.Expendable terminal candidates keep
      {node | node ∈ network.prunable terminal candidates keep} where
  present node doomed := (mem_prunable_iff.1 doomed).2.1
  candidate node doomed := (mem_prunable_iff.1 doomed).1
  unkept node doomed kept := not_mem_prunable_of_anchor (mem_anchors_iff.2
    (.inr ⟨mem_nodeNames_of_hasNode (mem_prunable_iff.1 doomed).2.1, .inl kept⟩)) doomed
  apart := not_mem_prunable_of_anchor (mem_anchors_iff.2 (.inl rfl))
  unread reader survives stands slot connection connected doomed := by
    obtain ⟨_, present, unused⟩ := mem_prunable_iff.1 doomed
    -- A reader that survives is an anchor, or one draws on it, and so on what it reads.
    obtain ⟨anchor, anchored, draws⟩ :
        ∃ anchor ∈ network.anchors terminal candidates keep, network.DrawsOn anchor reader := by
      rcases stands with there | anchored
      · exact exists_anchor (fun _ => there) (mem_nodeNames_of_hasNode there) survives
      · exact ⟨reader, anchored, .refl⟩
    exact unused anchor anchored (draws.tail ⟨present, slot, connection, connected, rfl⟩)

/-- The nodes that a pruning deletes are those that it lists. -/
theorem mem_prunable_iff_deleted {node : String} :
    node ∈ network.prunable terminal candidates keep ↔
      node ∈ network.nodeNames ∧ node ∉ (network.prune terminal candidates keep).1.nodeNames := by
  -- Pruning deletes the prunable nodes and no others.
  have deleted : node ∈ (network.prune terminal candidates keep).1.nodeNames ↔
      node ∉ network.prunable terminal candidates keep ∧ node ∈ network.nodeNames :=
    mem_nodeNames_deleteNodes
  rw [deleted]
  constructor
  · exact fun doomed => ⟨mem_nodeNames_of_hasNode (mem_prunable_iff.1 doomed).2.1,
      fun stays => stays.1 doomed⟩
  · exact fun ⟨recorded, gone⟩ => Classical.byContradiction fun stays => gone ⟨stays, recorded⟩

/-- Pruning is exact, for every network, terminal and sets of candidates and nodes to keep: the nodes that it
deletes are the greatest expendable set, they are listed in strict order of their names, and no node that
still exists is connected to any of them. -/
theorem prune_isGreatest (network : Network) (terminal : String) (candidates keep : NameSet) :
    let after := (network.prune terminal candidates keep).1
    let pruned := (network.prune terminal candidates keep).2
    let deleted := {node | node ∈ network.nodeNames ∧ node ∉ after.nodeNames}
    IsGreatest {nodes | network.Expendable terminal candidates keep nodes} deleted ∧
      (∀ node, after.hasNode node = true → ∀ slot connection, after.input? node slot = some connection →
        connection.source ∉ deleted) ∧
      pruned.Pairwise (· < ·) ∧ ∀ node, node ∈ pruned ↔ node ∈ deleted := by
  intro after pruned deleted
  have listed : {node | node ∈ pruned} = deleted := Set.ext fun node => mem_prunable_iff_deleted
  -- What is pruned is expendable, and every other such set is a part of it.
  have expendable : network.Expendable terminal candidates keep deleted :=
    listed ▸ network.expendable_prunable terminal candidates keep
  refine ⟨⟨expendable, fun nodes other => listed ▸ other.subset_prunable⟩, ?_,
    (Dict.keys_sorted candidates).filter _, fun node => mem_prunable_iff_deleted⟩
  -- A node that still exists existed before, and has kept its connections.
  intro node survives slot connection connected
  rw [show after.hasNode node = _ from hasNode_deleteNodes .., Bool.and_eq_true, Bool.not_eq_true',
    decide_eq_false_iff_not] at survives
  rw [show after.input? node slot = _ from input?_deleteNodes .., if_neg survives.1] at connected
  exact expendable.unread node (listed ▸ survives.1) (.inl survives.2) slot connection connected

/-- Of two candidates that only read each other, both are pruned. -/
example :
    let network : Network :=
      { materialPath := "/M", terminals := Dict.empty, nodes := Dict.ofList [
          ("/M/a", ⟨"add", Dict.empty, Dict.ofList [("in", ⟨"/M/b", "out"⟩)]⟩),
          ("/M/b", ⟨"add", Dict.empty, Dict.ofList [("in", ⟨"/M/a", "out"⟩)]⟩),
          ("/M/t", ⟨"surface", Dict.empty, Dict.empty⟩)] }
    (network.prune "/M/t" (NameSet.ofList ["/M/b", "/M/a"]) Dict.empty).2 = ["/M/a", "/M/b"] := by
  cbv

/-- What an anchor draws on is drawn on after a pruning too. -/
theorem DrawsOn.prune {anchor node : String} (draws : network.DrawsOn anchor node)
    (anchored : anchor ∈ network.anchors terminal candidates keep) :
    (network.prune terminal candidates keep).1.DrawsOn anchor node := by
  have survives : ∀ {other}, network.DrawsOn anchor other →
      other ∉ network.prunable terminal candidates keep :=
    fun draws doomed => (mem_prunable_iff.1 doomed).2.2 anchor anchored draws
  -- No node on the chain is deleted, so each step of it stays.
  induction draws with
  | refl => exact .refl
  | @tail reader source draws reads ih =>
    have reached := survives (draws.tail reads)
    obtain ⟨present, slot, connection, connected, same⟩ := reads
    refine ih.tail ⟨?_, slot, connection, ?_, same⟩
    · exact (hasNode_deleteNodes ..).trans (by simp [reached, present])
    · exact (input?_deleteNodes ..).trans (by simp [survives draws, connected])

/-- After a pruning there is nothing left to prune. -/
theorem prunable_prune (network : Network) (terminal : String) (candidates keep : NameSet) :
    (network.prune terminal candidates keep).1.prunable terminal candidates keep = [] := by
  refine List.eq_nil_iff_forall_not_mem.2 fun node doomed => ?_
  obtain ⟨_, there, unused⟩ := mem_prunable_iff.1 doomed
  rw [show (network.prune terminal candidates keep).1.hasNode node = _ from hasNode_deleteNodes ..,
    Bool.and_eq_true, Bool.not_eq_true', decide_eq_false_iff_not] at there
  obtain ⟨survives, present⟩ := there
  -- The node survived because an anchor draws on it, and that is an anchor still.
  obtain ⟨anchor, anchored, draws⟩ :=
    exists_anchor (fun _ => present) (mem_nodeNames_of_hasNode present) survives
  refine unused anchor (mem_anchors_iff.2 ?_) (draws.prune anchored)
  refine (mem_anchors_iff.1 anchored).imp_right fun ⟨recorded, kind⟩ => ⟨?_, kind⟩
  exact mem_nodeNames_deleteNodes.2 ⟨not_mem_prunable_of_anchor anchored, recorded⟩

/-- Pruning is idempotent and touches nothing else, for every network, terminal and sets of candidates and
nodes to keep: the nodes that survive keep their records, the bindings and the path of the material stay, and
pruning again deletes nothing and leaves the same network. -/
theorem prune_prune (network : Network) (terminal : String) (candidates keep : NameSet) :
    let after := (network.prune terminal candidates keep).1
    (∀ node ∈ after.nodeNames, after.nodes.get? node = network.nodes.get? node) ∧
      after.terminals = network.terminals ∧ after.materialPath = network.materialPath ∧
      after.prune terminal candidates keep = (after, []) := by
  -- The survivors are drawn on by an anchor, so that a second pass finds none to delete.
  intro after
  refine ⟨fun node survives => ?_, terminals_deleteNodes .., materialPath_deleteNodes .., ?_⟩
  · have stays := (mem_nodeNames_deleteNodes.1 survives).1
    exact (get?_deleteNodes ..).trans (if_neg stays)
  · rw [prune, show after.prunable terminal candidates keep = [] from prunable_prune ..]
    rfl

end Network

end ShadeBake
