import ShadeBake.Document.Basic
import ShadeBake.Filter
import ShadeBake.Shader.Error

/-! The order in which the nodes that feed a node are computed: each after all that it reads. -/

namespace ShadeBake

namespace Document

namespace Node

/-- The names of the nodes that a node reads, in the order of its inputs. -/
def sources (node : Node) : List String :=
  node.inputs.filterMap (·.node)

end Node

namespace Graph

/-- All nodes that a node reads must be in the graph. If several are not, the last is reported. -/
def checkSources (graph : Graph) (node : Node) : Except EmitError Unit :=
  -- In reverse, the first missing one is the last of them.
  let missing := node.inputs.reverse.findSome? fun input =>
    input.node.bind fun source =>
      if (graph.node? source).isSome then none else some (input.name, source)
  match missing with
  | some (input, source) => .error (.outsideGraph node.name input source graph.name)
  | none => .ok ()

/-- The nodes of a graph that are not on a path. -/
def offPath (graph : Graph) (path : List String) : List Node :=
  graph.nodes.filter fun node => node.name ∉ path

/-- A node that is put on the path is off it no more. -/
theorem length_offPath_lt {graph : Graph} {path : List String} {name : String} {node : Node}
    (found : graph.node? name = some node) (off : name ∉ path) :
    (graph.offPath (name :: path)).length < (graph.offPath path).length := by
  -- The node bears the name it was found by, so the longer path holds it.
  have named : node.name = name := by simpa using List.find?_some found
  refine length_filter_lt (a := node) ?_ (List.mem_of_find?_eq_some found) ?_ ?_
  · intro other _ away
    simp only [List.mem_cons, not_or, decide_eq_true_eq] at away ⊢
    exact away.2
  · simpa [named] using off
  · simp [named]

/-- The computed nodes, in order, after those of some names and all that feeds them; the path holds the
names between the root and these. A node that is reached again from its own path lies on a cycle. -/
def compute (graph : Graph) (path : List String) (done : List Node) :
    List String → Except EmitError (List Node)
  | [] => .ok done
  | name :: rest =>
    match found : graph.node? name with
    | none => .error (.unknownNode (path.headD "") name)
    | some node =>
      -- A computed node is done with, even where it would close a circle.
      if done.any (·.name = name) then compute graph path done rest
      else if off : name ∈ path then .error (.cycle name)
      else
        have := length_offPath_lt found off
        do
          graph.checkSources node
          let computed ← compute graph (name :: path) done node.sources
          compute graph path (computed ++ [node]) rest
  termination_by names => ((graph.offPath path).length, names.length)
  decreasing_by
    -- A node that is done is passed over.
    · exact Prod.Lex.right _ (Nat.lt_succ_self _)
    -- Going on to what a node reads puts a node on the path.
    · exact Prod.Lex.left _ _ this
    -- Coming back, one name less is left on the same path.
    · exact Prod.Lex.right _ (Nat.lt_succ_self _)

/-- The nodes that feed a root, each after all that it reads, with the root last. -/
def evaluationOrder (graph : Graph) (root : Node) : Except EmitError (List Node) := do
  graph.checkSources root
  let computed ← graph.compute [root.name] [] root.sources
  return computed ++ [root]

end Graph

end Document

end ShadeBake
