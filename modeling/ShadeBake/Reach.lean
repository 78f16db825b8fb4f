import ShadeBake.Filter
import ShadeBake.Network.Basic

/-! What feeds a node: the nodes that its inputs read, directly or through others. -/

namespace ShadeBake

namespace Network

/-- The existing nodes that a node's inputs read, in the order of the inputs. -/
def sources (network : Network) (node : String) : List String :=
  ((network.inputs node).map (·.2.source)).filter (network.hasNode ·)

/-- The nodes of a network that have not been visited. -/
def unvisited (network : Network) (visited : List String) : List String :=
  network.nodeNames.filter (· ∉ visited)

/-- A name that is not among the nodes has no record. -/
theorem get?_eq_none {network : Network} {node : String} (absent : node ∉ network.nodeNames) :
    network.nodes.get? node = none :=
  -- The node names are the keys of the records.
  Dict.get?_eq_none absent

/-- A node that is not there reads nothing. -/
theorem sources_of_not_mem {network : Network} {node : String} (absent : node ∉ network.nodeNames) :
    network.sources node = [] := by
  -- A node without a record has no inputs.
  simp [sources, inputs, get?_eq_none absent]

/-- Marking a node that is there leaves fewer unvisited. -/
theorem length_unvisited_lt {network : Network} {visited more : List String} {node : String}
    (there : node ∈ network.nodeNames) (fresh : node ∉ visited) (marked : node ∈ more) :
    (network.unvisited (visited ++ more)).length < (network.unvisited visited).length := by
  -- The larger set refuses all that the smaller one does, and the node besides.
  refine length_filter_lt (a := node) ?_ there ?_ ?_
  · intro other _ away
    simp only [List.mem_append, not_or, decide_eq_true_eq] at away ⊢
    exact away.1
  · simpa using fresh
  · simp [marked]

/-- The visited nodes in order, after a stack of nodes and all that feeds them; the node on top is visited
next, and what it reads is put on top of the others. -/
def visit (network : Network) (visited : List String) : List String → List String
  | [] => visited
  | node :: rest =>
    if node ∈ visited then visit network visited rest
    else visit network (visited ++ [node]) ((network.sources node).reverse ++ rest)
  termination_by stack => ((network.unvisited visited).length, stack.length)
  decreasing_by
    -- A visited node leaves the stack and changes nothing else.
    · exact Prod.Lex.right _ (Nat.lt_succ_self _)
    · by_cases there : node ∈ network.nodeNames
      -- A node that is there is marked, whatever is put on the stack for it.
      · exact Prod.Lex.left _ _ (length_unvisited_lt there ‹_› (by simp))
      -- A name without a node reads nothing, so the stack shrinks.
      · rw [sources_of_not_mem there]
        have same : network.unvisited (visited ++ [node]) = network.unvisited visited := by
          refine List.filter_congr fun other inside => ?_
          have apart : other ≠ node := fun equal => there (equal ▸ inside)
          simp [apart]
        rw [same]
        exact Prod.Lex.right _ (Nat.lt_succ_self _)

/-- The roots and all nodes that feed them. -/
def reachable (network : Network) (roots : List String) : NameSet :=
  -- The last root is visited first.
  NameSet.ofList (network.visit [] roots.reverse)

end Network

end ShadeBake
