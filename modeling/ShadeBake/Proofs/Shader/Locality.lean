import Mathlib
import ShadeBake.Proofs.Shader.Order
import ShadeBake.Shader.Emit

/-! What a program that computes a node depends on: of the graph it depends only on the nodes that the root
refers to, directly or through others. What else the graph holds, and in which order, makes no difference. -/

namespace ShadeBake

/-- Two computations that do the same to every element of a list do the same to the list. -/
theorem mapM_congr {ε α β : Type} {work other : α → Except ε β} {list : List α}
    (same : ∀ a ∈ list, work a = other a) : list.mapM work = list.mapM other := by
  -- The first error, if there is one, comes from the same element.
  induction list with
  | nil => rfl
  | cons head rest ih =>
    rw [List.mapM_cons, List.mapM_cons, same head List.mem_cons_self,
      ih fun a later => same a (List.mem_cons_of_mem _ later)]

/-- Two searches that get the same answer at every element of a list find the same. -/
theorem findSome?_congr {α β : Type} {search other : α → Option β} {list : List α}
    (same : ∀ a ∈ list, search a = other a) : list.findSome? search = list.findSome? other := by
  -- The search is made element by element.
  induction list with
  | nil => rfl
  | cons head rest ih =>
    rw [List.findSome?_cons, List.findSome?_cons, same head List.mem_cons_self,
      ih fun a later => same a (List.mem_cons_of_mem _ later)]

namespace Document

namespace Graph

/-- A root refers to the names that it reads, and to all that the graph's nodes of these names read in turn. -/
def RefersTo (graph : Graph) (root : Node) (name : String) : Prop :=
  -- The names need not be those of nodes, and the root need not be in the graph.
  ∃ source ∈ root.sources, Relation.ReflTransGen graph.Reads source name

/-- Two graphs agree for a root when every name that it refers to stands for the same node in both, or for
none in both. -/
def AgreesFor (graph other : Graph) (root : Node) : Prop :=
  ∀ name, graph.RefersTo root name → graph.node? name = other.node? name

variable {graph other : Graph} {root node : Node}

/-- Graphs that agree for a root agree on the names that it reads. -/
theorem AgreesFor.node?_eq (agrees : graph.AgreesFor other root) {source : String}
    (reads : source ∈ root.sources) : graph.node? source = other.node? source :=
  -- A source of the root is what the root draws on at once.
  agrees source ⟨source, reads, .refl⟩

/-- Graphs that agree for a root agree for every node that it refers to. -/
theorem AgreesFor.of_node? (agrees : graph.AgreesFor other root) {name : String}
    (refers : graph.RefersTo root name) (found : graph.node? name = some node) :
    graph.AgreesFor other node := by
  intro deeper refersOn
  -- What the node refers to, the root refers to through it.
  obtain ⟨first, isFirst, chain⟩ := refers
  obtain ⟨source, isSource, further⟩ := refersOn
  have reads : graph.Reads name source := ⟨node, found, isSource⟩
  exact agrees deeper ⟨first, isFirst, (chain.tail reads).trans further⟩

/-- The check of a node's sources is the same in graphs of one name that agree on them. -/
theorem checkSources_congr (named : graph.name = other.name)
    (same : ∀ source ∈ node.sources, graph.node? source = other.node? source) :
    graph.checkSources node = other.checkSources node := by
  -- The search for a missing source gets the same answer at every input.
  unfold checkSources
  rw [named, findSome?_congr fun input inside => ?_]
  cases reads : input.node with
  | none => rfl
  | some source =>
    have isSource : source ∈ node.sources := List.mem_filterMap.2 ⟨input, List.mem_reverse.1 inside, reads⟩
    rw [Option.bind_some, Option.bind_some, same source isSource]

/-- Computing a name and others: the name's node is looked up, and passed over if it is done; else it lies on a
cycle, or what it reads is computed in front of it. -/
theorem compute_cons (graph : Graph) (path : List String) (done : List Node) (name : String)
    (rest : List String) :
    graph.compute path done (name :: rest) =
      match graph.node? name with
      | none => .error (.unknownNode (path.headD "") name)
      | some node =>
        if done.any (·.name = name) then graph.compute path done rest
        else if name ∈ path then .error (.cycle name)
        else (do
          graph.checkSources node
          let computed ← graph.compute (name :: path) done node.sources
          graph.compute path (computed ++ [node]) rest) := by
  -- Both sides look the name up first.
  rw [compute]
  split
  · rename_i missing
    simp only [missing]
  · rename_i node found
    simp only [found]
    rfl

/-- What is computed for names is the same in graphs of one name that agree on these names and on all that
is read from them on. -/
theorem compute_congr (named : graph.name = other.name) (path : List String) (done : List Node)
    (names : List String)
    (same : ∀ first ∈ names, ∀ name, Relation.ReflTransGen graph.Reads first name →
      graph.node? name = other.node? name) :
    graph.compute path done names = other.compute path done names := by
  -- The induction follows the traversal of the one graph, and the other takes the same turn each time.
  fun_induction graph.compute path done names with
  | case1 path done => rw [compute]
  | case2 path done name rest missing =>
    have absent : other.node? name = none := same name List.mem_cons_self name .refl ▸ missing
    rw [compute_cons, absent]
  | case3 path done name rest node found seen ih =>
    have isNode : other.node? name = some node := same name List.mem_cons_self name .refl ▸ found
    rw [compute_cons, isNode]
    simp only [if_pos seen]
    exact ih fun first later => same first (List.mem_cons_of_mem _ later)
  | case4 path done name rest node found unseen onPath =>
    have isNode : other.node? name = some node := same name List.mem_cons_self name .refl ▸ found
    rw [compute_cons, isNode]
    simp only [if_neg unseen, if_pos onPath]
  | case5 path done name rest node found unseen off _ ihSources ihRest =>
    have isNode : other.node? name = some node := same name List.mem_cons_self name .refl ▸ found
    -- What is read from a source of the node on is read from the name on.
    have below : ∀ source ∈ node.sources, ∀ deeper, Relation.ReflTransGen graph.Reads source deeper →
        graph.node? deeper = other.node? deeper := by
      intro source isSource deeper chain
      exact same name List.mem_cons_self deeper (.head ⟨node, found, isSource⟩ chain)
    have checks := checkSources_congr named fun source isSource => below source isSource source .refl
    have others := fun computed => ihRest computed fun first later => same first (List.mem_cons_of_mem _ later)
    rw [compute_cons, isNode]
    simp only [if_neg unseen, if_neg off, checks, ihSources below, others]

/-- The order of evaluation of a root is the same in graphs of one name that agree for it. -/
theorem evaluationOrder_congr (named : graph.name = other.name) (agrees : graph.AgreesFor other root) :
    graph.evaluationOrder root = other.evaluationOrder root := by
  -- The root refers to its sources and to all that these refer to.
  have checks := checkSources_congr named fun source reads => agrees.node?_eq reads
  have computes := compute_congr named [root.name] [] root.sources fun source isSource name chain =>
    agrees name ⟨source, isSource, chain⟩
  unfold evaluationOrder
  rw [checks, computes]

/-- A node that is evaluated for a root is the root, or the node of a name that the root refers to. -/
theorem refersTo_of_evaluationOrder {order : List Node} (evaluates : graph.evaluationOrder root = .ok order)
    (member : node ∈ order) :
    node = root ∨ (graph.RefersTo root node.name ∧ graph.node? node.name = some node) := by
  obtain ⟨_, _, work⟩ := ok_of_bind evaluates
  obtain ⟨computed, sources, done⟩ := ok_of_bind work
  simp only [pure, Except.pure, Except.ok.injEq] at done
  subst done
  -- All but the root, which comes last, are computed for its sources.
  obtain ⟨ordered, ⟨more, extends', feeds⟩, _⟩ := compute_ok sources .nil
  rw [List.nil_append] at extends'
  subst extends'
  rcases List.mem_append.1 member with inside | last
  · exact .inr ⟨(feeds node inside).2, ordered.node?_eq inside⟩
  · exact .inl (List.mem_singleton.1 last)

end Graph

end Document

namespace Shader

open Document (Graph Node Input)

variable {graph other : Graph} {root node : Node}

/-- The argument for an input is the same in graphs that agree on what the node reads. -/
theorem plainArgument_congr (same : ∀ source ∈ node.sources, graph.node? source = other.node? source) :
    plainArgument graph node = plainArgument other node := by
  funext name declared default
  unfold plainArgument
  dsimp only
  cases authored : node.input? name with
  | none => rfl
  | some input =>
    cases reads : input.node with
    | none => simp only [Option.bind_some, reads, Option.map_none]
    -- A connected input is an input of the node, so that its source is one of the node's.
    | some source =>
      have isSource : source ∈ node.sources :=
        List.mem_filterMap.2 ⟨input, List.mem_of_find?_eq_some authored, reads⟩
      simp only [Option.bind_some, reads, Option.map_some, connected, same source isSource]

/-- The statements of a node are the same in graphs that agree on what it reads. -/
theorem statements_congr (options : EmitOptions)
    (same : ∀ source ∈ node.sources, graph.node? source = other.node? source) :
    statements options graph node = statements options other node := by
  -- The graph comes in at the arguments only.
  have passes : argument options graph node = argument options other node := by
    unfold argument
    rw [plainArgument_congr same]
  unfold statements arguments
  rw [passes]

/-- The program of a root, or the error in the stead of one, is the same in graphs of one name that agree for
the root, whatever other nodes and outputs they hold and in which order. -/
theorem emit_local (options : EmitOptions) (name : String) (graph other : Graph) (root : Node)
    (named : graph.name = other.name) (agrees : graph.AgreesFor other root) :
    emit options name graph root = emit options name other root := by
  have orders := Graph.evaluationOrder_congr named agrees
  unfold emit
  rw [← orders, named]
  cases evaluates : graph.evaluationOrder root with
  | error cause => rfl
  | ok order =>
    -- Each node of the order reads names that the root refers to.
    have computes : order.mapM (statements options graph) = order.mapM (statements options other) := by
      refine mapM_congr fun node inside => statements_congr options fun source reads => ?_
      rcases Graph.refersTo_of_evaluationOrder evaluates inside with rfl | ⟨refers, found⟩
      · exact agrees.node?_eq reads
      · exact (agrees.of_node? refers found).node?_eq reads
    simp only [bind, Except.bind, computes]

end Shader

namespace Shader.Crowded

open Document (Graph Node)

/-- A constant. -/
def one : Node where
  name := "one"
  category := "constant"
  type := "integer"
  definition := some "ND_constant_integer"
  inputs := [{ name := "value", type := "integer", value := some (.integer 1) }]

/-- The constant added to itself. -/
def twice : Node where
  name := "twice"
  category := "add"
  type := "integer"
  definition := some "ND_add_integer"
  inputs := [{ name := "in1", type := "integer", node := some "one" },
    { name := "in2", type := "integer", node := some "one" }]

/-- A node that reads the sum, itself and a node that there is not. -/
def stray : Node where
  name := "stray"
  category := "mix"
  type := "integer"
  inputs := [{ name := "fg", type := "integer", node := some "twice" },
    { name := "bg", type := "integer", node := some "stray" },
    { name := "mix", type := "integer", node := some "gone" }]

/-- The graph of the constant and the sum. -/
def graph : Graph where
  name := "NG"
  nodes := [twice, one]

/-- A graph with the same two nodes in the other order, a node that could not be computed, another one of the
constant's name behind it, and an output. -/
def crowded : Graph where
  name := "NG"
  nodes := [stray, one, twice, { one with type := "color3" }]
  outputs := [⟨"base_output", "integer", "twice", none⟩]

/-- The program for the sum. -/
def program : Program where
  name := "twiceShader"
  node := "twice"
  graph := "NG"
  category := "add"
  searchPaths := []
  type := .int
  body := [
    .declare .int ⟨"one", "out"⟩,
    .call "constant_integer" [.constant (.integer 1)] [⟨"one", "out"⟩],
    .declare .int ⟨"twice", "out"⟩,
    .call "add_integer" [.read ⟨"one", "out"⟩, .read ⟨"one", "out"⟩] [⟨"twice", "out"⟩],
    .result ⟨"twice", "out"⟩]

/-- The sum refers to the constant only. -/
theorem eq_one_of_refersTo {name : String} (refers : graph.RefersTo twice name) : name = "one" := by
  obtain ⟨source, isSource, chain⟩ := refers
  have first : ∀ source ∈ twice.sources, source = "one" := by decide
  -- The chain ends where it begins, as the constant reads nothing.
  induction chain with
  | refl => exact first source isSource
  | tail _ reads ih =>
    obtain ⟨node, found, isRead⟩ := reads
    have isOne : graph.node? "one" = some one := by decide
    rw [ih] at found
    cases isOne.symm.trans found
    simp [Node.sources, one] at isRead

/-- The sum has one program, whatever stands around it and the constant. -/
theorem twice_local :
    graph.name = crowded.name ∧ graph.AgreesFor crowded twice ∧
    emit {} "twiceShader" graph twice = .ok program ∧ emit {} "twiceShader" crowded twice = .ok program := by
  -- The graphs differ in nodes that the root does not refer to.
  have agrees : graph.AgreesFor crowded twice := by
    intro name refers
    rw [eq_one_of_refersTo refers]
    decide
  have emits : emit {} "twiceShader" graph twice = .ok program := by cbv
  exact ⟨rfl, agrees, emits, emit_local {} "twiceShader" graph crowded twice rfl agrees ▸ emits⟩

end Shader.Crowded

end ShadeBake
