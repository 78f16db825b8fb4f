import ShadeBake.Proofs.Shader.Order

/-! The order of evaluation is a topological sort of what the root draws on, and there is one exactly where there
can be. A traversal with an explicit stack, on which nodes are entered and left, always ends with it. -/

namespace ShadeBake

namespace Document

namespace Graph

/-- A visit that a traversal has yet to make: it enters a node, or leaves it when all that it reads is done. -/
inductive Visit where
  | enter (node : Node)
  | leave (node : Node)

/-- A traversal under way: the nodes that are done in order, the names of those entered and not left, and the
visits to make, the next one first. -/
structure Traversal where
  order : List Node := []
  path : List String := []
  stack : List Visit

/-- The visits that enter the nodes of some names, those in the graph. -/
def visits (graph : Graph) (names : List String) : List Visit :=
  (names.filterMap graph.node?).map .enter

namespace Traversal

/-- The traversal that starts at a root. -/
def start (root : Node) : Traversal where
  stack := [.enter root]

/-- The traversal after a visit, where others are left on the stack. -/
def visit (graph : Graph) (order : List Node) (path : List String) (rest : List Visit) :
    Visit → Except EmitError Traversal
  | .enter node =>
    if order.any (·.name = node.name) then .ok ⟨order, path, rest⟩
    -- A node on the path is reached again from itself.
    else if node.name ∈ path then .error (.cycle node.name)
    else do
      graph.checkSources node
      return ⟨order, node.name :: path, graph.visits node.sources ++ .leave node :: rest⟩
  | .leave node =>
    let order := if order.any (·.name = node.name) then order else order ++ [node]
    .ok ⟨order, path.erase node.name, rest⟩

/-- A traversal ends with the order in which the nodes are done when its stack is empty, or with the error of the
first visit that fails. -/
inductive Ends (graph : Graph) : Traversal → Except EmitError (List Node) → Prop
  /-- Nothing is left to do. -/
  | finished (order : List Node) (path : List String) : Ends graph ⟨order, path, []⟩ (.ok order)
  /-- The next visit fails. -/
  | failed {order : List Node} {path : List String} {next : Visit} {rest : List Visit} {cause : EmitError}
    (fails : visit graph order path rest next = .error cause) :
    Ends graph ⟨order, path, next :: rest⟩ (.error cause)
  /-- The next visit is made, and the traversal goes on. -/
  | visited {order : List Node} {path : List String} {next : Visit} {rest : List Visit} {later : Traversal}
    {result : Except EmitError (List Node)} (visits : visit graph order path rest next = .ok later)
    (ends : Ends graph later result) : Ends graph ⟨order, path, next :: rest⟩ result

variable {graph : Graph}

/-- A traversal ends in one way only. -/
theorem Ends.unique {traversal : Traversal} {result other : Except EmitError (List Node)}
    (ends : Ends graph traversal result) (again : Ends graph traversal other) : other = result := by
  -- Each visit has one outcome, so the two ends agree visit by visit.
  induction ends with
  | finished =>
    cases again
    rfl
  | failed fails =>
    cases again with
    | failed fails' => rw [Except.error.inj (fails.symm.trans fails')]
    | visited visits => cases fails.symm.trans visits
  | visited visits _ ih =>
    cases again with
    | failed fails => cases visits.symm.trans fails
    -- The same visit leads to the same traversal, from where both go on.
    | visited visits' ends =>
      cases visits.symm.trans visits'
      exact ih ends

/-- A node that is done is not entered again. -/
theorem visit_enter_of_done {order : List Node} {path : List String} {rest : List Visit} {node : Node}
    (done : order.any (·.name = node.name) = true) :
    visit graph order path rest (.enter node) = .ok ⟨order, path, rest⟩ := by
  -- A node that is in the order already is passed over.
  simp only [visit, done, if_true]

/-- A node that is neither done nor on the path is entered when its sources are in the graph, and these are
visited next. -/
theorem visit_enter_of_new (graph : Graph) {order : List Node} {path : List String} (rest : List Visit)
    {node : Node} (new : ¬order.any (·.name = node.name) = true) (off : node.name ∉ path) :
    visit graph order path rest (.enter node) =
      (graph.checkSources node).map fun _ =>
        ⟨order, node.name :: path, graph.visits node.sources ++ .leave node :: rest⟩ := by
  -- The node is neither done nor on the path, so its sources are checked and then visited.
  simp only [visit, if_neg new, if_neg off]
  cases graph.checkSources node with
  | ok _ => rfl
  | error _ => rfl

/-- A node that was entered last and is not done is done when it is left. -/
theorem visit_leave {order : List Node} {path : List String} {rest : List Visit} {node : Node}
    (new : node.name ∉ order.map (·.name)) :
    visit graph order (node.name :: path) rest (.leave node) = .ok ⟨order ++ [node], path, rest⟩ := by
  -- The node is not done, so it is put at the end and taken from the path.
  have unseen : ¬order.any (·.name = node.name) = true := by
    simpa using new
  simp only [visit, if_neg unseen, List.erase_cons_head]

/-- The first of some names is entered first, if it is in the graph. -/
theorem visits_cons {name : String} {others : List String} {node : Node}
    (found : graph.node? name = some node) :
    graph.visits (name :: others) = .enter node :: graph.visits others := by
  -- The name leads to a node, which is to be entered.
  simp [visits, found]

/-- A traversal that enters the nodes of some names, and then goes on with others, comes to what is computed for
these names. -/
theorem ends_of_compute {path : List String} {done : List Node} {names : List String} {rest : List Visit}
    {result : Except EmitError (List Node)}
    (found : ∀ name ∈ names, (graph.node? name).isSome = true) (ordered : graph.Ordered done)
    (fails : ∀ cause, graph.compute path done names = .error cause → result = .error cause)
    (goesOn : ∀ computed, graph.compute path done names = .ok computed → Ends graph ⟨computed, path, rest⟩ result) :
    Ends graph ⟨done, path, graph.visits names ++ rest⟩ result := by
  -- The induction follows the computation; what it does after a call lies on the stack.
  fun_induction graph.compute path done names generalizing rest result with
  | case1 path done => exact goesOn done rfl
  | case2 path done name others missing =>
    have there := found name List.mem_cons_self
    simp [missing] at there
  | case3 path done name others node isNode seen ih =>
    have named : node.name = name := by simpa using List.find?_some isNode
    rw [visits_cons isNode]
    exact .visited (visit_enter_of_done (named ▸ seen))
      (ih (fun other later => found other (List.mem_cons_of_mem _ later)) ordered fails goesOn)
  | case4 path done name others node isNode unseen onPath =>
    have named : node.name = name := by simpa using List.find?_some isNode
    rw [visits_cons isNode, fails _ rfl]
    refine .failed ?_
    simp only [visit, named, if_neg unseen, if_pos onPath]
  | case5 path done name others node isNode unseen off _ ihSources ihOthers =>
    obtain rfl : node.name = name := by simpa using List.find?_some isNode
    have enters := visit_enter_of_new graph (graph.visits others ++ rest) unseen off
    rw [visits_cons isNode, List.cons_append]
    cases checked : graph.checkSources node with
    | error cause =>
      rw [fails cause (by simp only [checked, bind, Except.bind])]
      exact .failed (by rw [enters, checked]; rfl)
    | ok _ =>
      refine .visited (by rw [enters, checked]; rfl) ?_
      refine ihSources (checkSources_eq_ok_iff.1 checked) ordered
        (fun cause failed => fails cause (by simp only [checked, failed, bind, Except.bind]))
        fun computed sources => ?_
      -- All that the node reads is done, and the node itself is not, as it was on the path.
      obtain ⟨valid, ⟨more, extends', feeds⟩, fed⟩ := compute_ok sources ordered
      have new : node.name ∉ computed.map (·.name) := by
        rw [extends']
        exact not_mem_of_onPath (by simpa using unseen) (fun other inside => (feeds other inside).1)
          List.mem_cons_self
      refine .visited (visit_leave new) ?_
      exact ihOthers computed (fun other later => found other (List.mem_cons_of_mem _ later))
        (.snoc valid isNode new fed)
        (fun cause failed => fails cause (by simp only [checked, sources, failed, bind, Except.bind]))
        fun result others => goesOn result (by simp only [checked, sources, others, bind, Except.bind])

/-- The traversal from a root ends with its order of evaluation, or with the error for which there is none. -/
theorem ends_start (graph : Graph) (root : Node) : Ends graph (start root) (graph.evaluationOrder root) := by
  -- The root is checked, its sources are computed as the recursion does, and it is left last.
  have enters : Traversal.visit graph [] [] [] (.enter root) = (graph.checkSources root).map fun _ =>
      ⟨[], [root.name], graph.visits root.sources ++ [.leave root]⟩ :=
    visit_enter_of_new graph [] (by simp) List.not_mem_nil
  cases checked : graph.checkSources root with
  | error cause =>
    have fails : graph.evaluationOrder root = .error cause := by
      simp only [evaluationOrder, checked, bind, Except.bind]
    exact fails ▸ .failed (by rw [enters, checked]; rfl)
  | ok _ =>
    refine .visited (by rw [enters, checked]; rfl) ?_
    refine ends_of_compute (checkSources_eq_ok_iff.1 checked) .nil
      (fun cause failed => by simp only [evaluationOrder, checked, failed, bind, Except.bind])
      fun computed sources => ?_
    have evaluates : graph.evaluationOrder root = .ok (computed ++ [root]) := by
      simp only [evaluationOrder, checked, sources, bind, Except.bind, pure, Except.pure]
    -- The root is left last, and was on the path all the time.
    obtain ⟨_, ⟨more, extends', feeds⟩, _⟩ := compute_ok sources .nil
    have new : root.name ∉ computed.map (·.name) := by
      rw [extends']
      exact not_mem_of_onPath List.not_mem_nil (fun other inside => (feeds other inside).1) List.mem_cons_self
    exact evaluates ▸ .visited (visit_leave new) (.finished _ _)

end Traversal

/-- The order of evaluation is a topological sort, for every graph and every root that is the graph's node of its
name. The traversal with an explicit stack ends, with this result and no other; there is an order exactly when all
that is read by what the root draws on is in the graph and nothing there lies on a cycle; and an order lists
exactly the nodes that the root draws on, each once and after all that it reads, with the root last. -/
theorem evaluationOrder_sorts (graph : Graph) (root : Node) (found : graph.node? root.name = some root) :
    (∀ result, Traversal.Ends graph (.start root) result ↔ result = graph.evaluationOrder root) ∧
    ((∃ order, graph.evaluationOrder root = .ok order) ↔
      (∀ reader, Relation.ReflTransGen graph.Reads root.name reader →
        ∀ source, graph.Reads reader source → (graph.node? source).isSome = true) ∧
      ∀ reader, Relation.ReflTransGen graph.Reads root.name reader →
        ¬Relation.TransGen graph.Reads reader reader) ∧
    ∀ order, graph.evaluationOrder root = .ok order →
      (order.map (·.name)).Nodup ∧
      (∀ node, node ∈ order ↔
        graph.node? node.name = some node ∧ Relation.ReflTransGen graph.Reads root.name node.name) ∧
      (∀ front node back, order = front ++ node :: back →
        ∀ source ∈ node.sources, ∃ feeding ∈ front, graph.node? source = some feeding) ∧
      order.getLast? = some root := by
  have ends := Traversal.ends_start graph root
  refine ⟨fun result => ⟨ends.unique, fun same => same ▸ ends⟩,
    ⟨?_, fun ⟨fed, acyclic⟩ => exists_evaluationOrder found ⟨fed, acyclic⟩⟩, fun order evaluates => ?_⟩
  · rintro ⟨order, evaluates⟩
    have sortable := sortable_of_evaluationOrder found evaluates
    exact ⟨sortable.fed, sortable.acyclic⟩
  -- What is known of an order are the properties of a sorted list of nodes.
  obtain ⟨ordered, last, feeds⟩ := evaluationOrder_ok found evaluates
  refine ⟨ordered.nodup, fun node => ⟨fun inside => ⟨ordered.node?_eq inside, feeds node inside⟩, ?_⟩, ?_, ?_⟩
  · rintro ⟨isNode, draws⟩
    -- Some node of the name is listed, and the graph has only one to give.
    obtain ⟨other, inside, same⟩ := List.mem_map.1 (ordered.closed (List.mem_map_of_mem last) draws)
    have isOther := ordered.node?_eq inside
    rw [same] at isOther
    cases isOther.symm.trans isNode
    exact inside
  · rintro front node back rfl source isSource
    obtain ⟨feeding, before, rfl⟩ := List.mem_map.1 (ordered.fed rfl source isSource)
    exact ⟨feeding, before, ordered.node?_eq (List.mem_append_left _ before)⟩
  · obtain ⟨_, _, work⟩ := ok_of_bind evaluates
    obtain ⟨computed, _, done⟩ := ok_of_bind work
    simp only [pure, Except.pure, Except.ok.injEq] at done
    exact done ▸ List.getLast?_concat

namespace Shared

/-- A constant that two nodes read. -/
def base : Node where
  name := "base"
  category := "constant"
  type := "float"

/-- A node that reads the constant. -/
def left : Node where
  name := "left"
  category := "sqrt"
  type := "float"
  inputs := [{ name := "in", type := "float", node := some "base" }]

/-- A node that reads the constant twice. -/
def right : Node where
  name := "right"
  category := "add"
  type := "float"
  inputs := [{ name := "in1", type := "float", node := some "base" },
    { name := "in2", type := "float", node := some "base" }]

/-- A node that reads both of these. -/
def top : Node where
  name := "top"
  category := "add"
  type := "float"
  inputs := [{ name := "in1", type := "float", node := some "left" },
    { name := "in2", type := "float", node := some "right" }]

/-- The graph of the four nodes. -/
def graph : Graph where
  name := "NG"
  nodes := [top, right, left, base]

/-- The shared constant is listed once, in front of its readers, and is not taken for a cycle. -/
theorem top_sorts :
    graph.node? top.name = some top ∧ graph.evaluationOrder top = .ok [base, left, right, top] ∧
    Traversal.Ends graph (.start top) (.ok [base, left, right, top]) ∧
    ∀ reader, Relation.ReflTransGen graph.Reads top.name reader →
      ¬Relation.TransGen graph.Reads reader reader := by
  -- The order is computed, and the general statement then says that there is no circle.
  have found : graph.node? top.name = some top := by decide
  have evaluates : graph.evaluationOrder top = .ok [base, left, right, top] := by cbv
  obtain ⟨ends, sorts, _⟩ := evaluationOrder_sorts graph top found
  exact ⟨found, evaluates, (ends _).2 evaluates.symm, (sorts.1 ⟨_, evaluates⟩).2⟩

end Shared

/-- Two nodes that read each other have no order. -/
example :
    let reader : Node :=
      { name := "a", category := "sqrt", type := "float", inputs := [⟨"in", "float", none, some "b", none, none⟩] }
    let source : Node :=
      { name := "b", category := "sqrt", type := "float", inputs := [⟨"in", "float", none, some "a", none, none⟩] }
    Graph.evaluationOrder { name := "NG", nodes := [reader, source] } reader = .error (.cycle "a") := by
  cbv

end Graph

end Document

end ShadeBake
