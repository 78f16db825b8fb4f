import ShadeBake.Reach
import ShadeBake.Warning

/-! Collecting the nodes that feed a node and that no earlier collection has met. -/

namespace ShadeBake

namespace Network

/-- The existing nodes among some names that have not been visited, each once. -/
def fresh (network : Network) (visited : List String) : List String → List String
  | [] => []
  | name :: rest =>
    -- A name taken once counts as visited for the rest of the names.
    if network.hasNode name ∧ name ∉ visited then
      name :: fresh network (visited ++ [name]) rest
    else fresh network visited rest

/-- The warnings for the inputs of a node whose sources do not exist. -/
def unknownSources (network : Network) (node : String) : List Warning :=
  (network.inputs node).filterMap fun (_, connection) =>
    if network.hasNode connection.source then none else some (.unknownNode connection.source)

/-- A fresh node is there, was not visited, and comes from the names. -/
theorem mem_fresh {network : Network} {visited names : List String} {name : String}
    (member : name ∈ network.fresh visited names) :
    network.hasNode name = true ∧ name ∉ visited ∧ name ∈ names := by
  induction names generalizing visited with
  | nil => simp [fresh] at member
  | cons head rest ih =>
    simp only [fresh] at member
    split at member
    -- The first name was taken: it is the member, or the member comes after it.
    · rename_i new
      rcases List.mem_cons.1 member with rfl | later
      · exact ⟨new.1, new.2, List.mem_cons_self⟩
      · have below := ih later
        exact ⟨below.1, fun seen => below.2.1 (List.mem_append_left _ seen),
          List.mem_cons_of_mem _ below.2.2⟩
    -- The first name was passed over.
    · have below := ih member
      exact ⟨below.1, below.2.1, List.mem_cons_of_mem _ below.2.2⟩

/-- A node that exists has a record. -/
theorem mem_nodeNames_of_hasNode {network : Network} {node : String}
    (exist : network.hasNode node = true) : node ∈ network.nodeNames := by
  -- Without a record it would have no type.
  apply Decidable.byContradiction
  intro absent
  have nothing := get?_eq_none absent
  simp [hasNode, typeOf, type?, nothing] at exist

/-- The nodes found from a stack of nodes, in order, and the warnings on the way. A node counts as visited
as soon as it is found, and the node on top is looked at next. -/
def gatherFrom (network : Network) (visited : List String) :
    List String → List String × List Warning
  | [] => ([], [])
  | node :: rest =>
    let found := network.fresh visited ((network.inputs node).map (·.2.source))
    let (later, warnings) := gatherFrom network (visited ++ found) (found.reverse ++ rest)
    (found ++ later, network.unknownSources node ++ warnings)
  termination_by stack => ((network.unvisited visited).length, stack.length)
  decreasing_by
    cases found : network.fresh visited ((network.inputs node).map (·.2.source)) with
    -- Nothing new was found, so the stack shrinks.
    | nil =>
      rw [List.append_nil]
      exact Prod.Lex.right _ (Nat.lt_succ_self _)
    -- A node that was found was not visited before and is now.
    | cons first others =>
      have new := mem_fresh (found ▸ List.mem_cons_self : first ∈ network.fresh visited _)
      exact Prod.Lex.left _ _
        (length_unvisited_lt (mem_nodeNames_of_hasNode new.1) new.2.1 List.mem_cons_self)

end Network

/-- The nodes collected so far and those met so far, and the warnings of one collection. -/
structure Gathered where
  nodes : NameSet
  visited : NameSet
  warnings : List Warning

/-- What is collected and met after a collection of what feeds a node. The node itself need not have been
met, and is then collected like others if it feeds itself. -/
def Network.gather (network : Network) (node : String) (nodes visited : NameSet) : Gathered :=
  -- What is found is new to the visited set, so both sets grow by exactly that.
  let (found, warnings) := network.gatherFrom visited.keys [node]
  { nodes := found.foldl NameSet.add nodes, visited := found.foldl NameSet.add visited, warnings }

end ShadeBake
