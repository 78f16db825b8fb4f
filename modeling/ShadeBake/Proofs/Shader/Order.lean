import Mathlib.Logic.Relation
import ShadeBake.Proofs.Success
import ShadeBake.Shader.Order

/-! The order of evaluation: each computed node comes after all that it reads, once, and feeds the root. There
is one where all that the root draws on is in the graph and lies on no cycle. -/

namespace ShadeBake

/-- An element of a list that was extended at the end is the last one, or stands among those before. -/
theorem split_concat {α : Type} {list front back : List α} {last a : α}
    (split : list ++ [last] = front ++ a :: back) :
    (front = list ∧ a = last) ∨ ∃ rest, list = front ++ a :: rest := by
  -- What is behind the element is empty or has the last element at its end.
  rcases List.eq_nil_or_concat back with rfl | ⟨rest, other, rfl⟩
  · obtain ⟨same, isLast⟩ := List.append_inj' split rfl
    simp only [List.cons.injEq, and_true] at isLast
    exact .inl ⟨same.symm, isLast.symm⟩
  · have shorter : list ++ [last] = (front ++ a :: rest) ++ [other] := by simpa using split
    exact .inr ⟨rest, (List.append_inj' shorter rfl).1⟩

namespace Document

namespace Graph

/-- A name reads another one when its node in the graph does. -/
def Reads (graph : Graph) (name source : String) : Prop :=
  ∃ node, graph.node? name = some node ∧ source ∈ node.sources

/-- A list of nodes is ordered when each is the graph's node of its name, is listed once, and comes after
all that it reads. -/
inductive Ordered (graph : Graph) : List Node → Prop
  /-- Nothing is ordered. -/
  | nil : Ordered graph []
  /-- A new node may come last when all that it reads is listed. -/
  | snoc {done : List Node} {node : Node} (ordered : Ordered graph done)
    (found : graph.node? node.name = some node) (new : node.name ∉ done.map (·.name))
    (fed : ∀ source ∈ node.sources, source ∈ done.map (·.name)) : Ordered graph (done ++ [node])

namespace Ordered

variable {graph : Graph} {order : List Node}

/-- No name is listed twice. -/
theorem nodup (ordered : Ordered graph order) : (order.map (·.name)).Nodup := by
  -- A node is put at the end only if its name is new.
  induction ordered with
  | nil => exact List.nodup_nil
  | snoc _ _ new _ ih =>
    rw [List.map_append, List.nodup_append]
    refine ⟨ih, by simp, fun name inside last isLast same => ?_⟩
    simp only [List.map_cons, List.map_nil, List.mem_singleton] at isLast
    exact new (isLast ▸ same ▸ inside)

/-- Each listed node is the graph's node of its name. -/
theorem node?_eq (ordered : Ordered graph order) {node : Node} (inside : node ∈ order) :
    graph.node? node.name = some node := by
  -- Every node was found by its name when it was put at the end.
  induction ordered with
  | nil => exact absurd inside List.not_mem_nil
  | snoc _ found _ _ ih =>
    rcases List.mem_append.1 inside with before | last
    · exact ih before
    · exact List.mem_singleton.1 last ▸ found

/-- What a listed node reads is listed in front of it. -/
theorem fed (ordered : Ordered graph order) {front back : List Node} {node : Node}
    (split : order = front ++ node :: back) : ∀ source ∈ node.sources, source ∈ front.map (·.name) := by
  -- The node was the last one when it was put there, or the list before the last is split at it.
  induction ordered generalizing back with
  | nil => simp at split
  | snoc _ _ _ fed ih =>
    rcases split_concat split with ⟨rfl, rfl⟩ | ⟨_, shorter⟩
    · exact fed
    · exact ih shorter

/-- What a listed name draws on is listed. -/
theorem closed (ordered : Ordered graph order) {name source : String}
    (listed : name ∈ order.map (·.name)) (draws : Relation.ReflTransGen graph.Reads name source) :
    source ∈ order.map (·.name) := by
  induction draws with
  | refl => exact listed
  | tail _ reads ih =>
    obtain ⟨node, found, isSource⟩ := reads
    obtain ⟨reader, inside, rfl⟩ := List.mem_map.1 ih
    obtain ⟨front, back, split⟩ := List.append_of_mem inside
    cases (ordered.node?_eq inside).symm.trans found
    -- The reader's sources are listed in front of it.
    have before := ordered.fed split _ isSource
    rw [split, List.map_append]
    exact List.mem_append_left _ before

/-- No listed name lies on a cycle. -/
theorem acyclic (ordered : Ordered graph order) {name : String} (listed : name ∈ order.map (·.name)) :
    ¬Relation.TransGen graph.Reads name name := by
  induction ordered generalizing name with
  | nil => simp at listed
  | @snoc done node _ found _ fed ih =>
    rw [List.map_append] at listed
    rcases List.mem_append.1 listed with before | last
    · exact ih before
    -- A cycle through the last node would lead through one of its sources, which are listed before it.
    · intro cycle
      rw [List.map_singleton, List.mem_singleton] at last
      subst last
      obtain ⟨source, ⟨reader, isReader, isSource⟩, back⟩ := Relation.TransGen.head'_iff.1 cycle
      cases found.symm.trans isReader
      exact ih (fed source isSource) (.tail' back ⟨node, found, isSource⟩)

end Ordered

/-- A name on the path that was not done is not that of a node done by now, if all new ones are off it. -/
theorem not_mem_of_onPath {path : List String} {done more : List Node} {name : String}
    (unseen : name ∉ done.map (·.name)) (off : ∀ node ∈ more, node.name ∉ path) (onPath : name ∈ path) :
    name ∉ (done ++ more).map (·.name) := by
  -- Names on the path are of nodes that are not finished.
  rw [List.map_append, List.mem_append]
  rintro (before | now)
  · exact unseen before
  · obtain ⟨node, inside, rfl⟩ := List.mem_map.1 now
    exact off node inside onPath

/-- A computation that succeeds extends what was computed by nodes off the path that feed the names, keeps
the order, and computes all of the names. -/
theorem compute_ok {graph : Graph} {path : List String} {done result : List Node} {names : List String}
    (computes : graph.compute path done names = .ok result) (ordered : Ordered graph done) :
    Ordered graph result ∧
      (∃ more, result = done ++ more ∧ ∀ node ∈ more, node.name ∉ path ∧
        ∃ name ∈ names, Relation.ReflTransGen graph.Reads name node.name) ∧
      ∀ name ∈ names, name ∈ result.map (·.name) := by
  -- The induction follows the traversal: a name is unknown, done, on the path, or gone on to.
  fun_induction graph.compute path done names generalizing result with
  | case1 path done =>
    simp only [Except.ok.injEq] at computes
    subst computes
    exact ⟨ordered, ⟨[], by simp⟩, by simp⟩
  | case2 => simp at computes
  | case3 path done name rest node found seen ih =>
    obtain ⟨valid, ⟨more, extends', feeds⟩, all⟩ := ih computes ordered
    refine ⟨valid, ⟨more, extends', fun other inside => ?_⟩, fun other inside => ?_⟩
    · obtain ⟨off, root, listed, draws⟩ := feeds other inside
      exact ⟨off, root, List.mem_cons_of_mem _ listed, draws⟩
    -- The name itself was computed before.
    · rcases List.mem_cons.1 inside with rfl | later
      · obtain ⟨old, isOld, named⟩ := List.any_eq_true.1 seen
        rw [extends', List.map_append]
        exact List.mem_append_left _ (List.mem_map.2 ⟨old, isOld, of_decide_eq_true named⟩)
      · exact all other later
  | case4 => simp at computes
  | case5 path done name rest node found unseen off _ ihSources ihRest =>
    obtain ⟨_, _, work⟩ := ok_of_bind computes
    obtain ⟨computed, sources, others⟩ := ok_of_bind work
    obtain ⟨valid, ⟨more, extends', feeds⟩, all⟩ := ihSources sources ordered
    have named : node.name = name := by simpa using List.find?_some found
    -- The node is new: it was not done before, and nothing on the path was computed for its sources.
    have new : node.name ∉ computed.map (·.name) := by
      rw [extends', named]
      refine not_mem_of_onPath (fun old => ?_) (fun other inside => (feeds other inside).1) List.mem_cons_self
      obtain ⟨other, isDone, same⟩ := List.mem_map.1 old
      exact unseen (List.any_eq_true.2 ⟨other, isDone, decide_eq_true same⟩)
    have next := Ordered.snoc valid (named ▸ found) new all
    obtain ⟨valid', ⟨more', extends'', feeds'⟩, all'⟩ := ihRest computed others next
    refine ⟨valid', ⟨more ++ node :: more', by simp [extends'', extends'], fun other inside => ?_⟩,
      fun other inside => ?_⟩
    · rcases List.mem_append.1 inside with before | after
      · obtain ⟨offPath, source, listed, draws⟩ := feeds other before
        exact ⟨fun there => offPath (List.mem_cons_of_mem _ there), name, List.mem_cons_self,
          .head ⟨node, found, listed⟩ draws⟩
      · rcases List.mem_cons.1 after with rfl | later
        · exact ⟨named ▸ off, name, List.mem_cons_self, named ▸ .refl⟩
        · obtain ⟨offPath, root, listed, draws⟩ := feeds' other later
          exact ⟨offPath, root, List.mem_cons_of_mem _ listed, draws⟩
    · rcases List.mem_cons.1 inside with rfl | later
      · rw [extends'']
        simp [named]
      · exact all' other later

/-- What a name draws on can be sorted when all that is read there is in the graph and nothing lies on a
cycle. -/
structure Sortable (graph : Graph) (name : String) : Prop where
  fed : ∀ reader, Relation.ReflTransGen graph.Reads name reader →
    ∀ source, graph.Reads reader source → (graph.node? source).isSome = true
  acyclic : ∀ reader, Relation.ReflTransGen graph.Reads name reader →
    ¬Relation.TransGen graph.Reads reader reader

/-- What a source of a name draws on can be sorted if what the name draws on can. -/
theorem Sortable.source {graph : Graph} {name source : String} (sortable : graph.Sortable name)
    (reads : graph.Reads name source) : graph.Sortable source where
  -- What a source draws on, its reader draws on as well.
  fed reader draws := sortable.fed reader (.head reads draws)
  acyclic reader draws := sortable.acyclic reader (.head reads draws)

/-- The check of a node's sources passes exactly when all of them are in the graph. -/
theorem checkSources_eq_ok_iff {graph : Graph} {node : Node} :
    graph.checkSources node = .ok () ↔ ∀ source ∈ node.sources, (graph.node? source).isSome = true := by
  -- The check finds nothing exactly if each source is there.
  have missing : (node.inputs.reverse.findSome? fun input =>
      input.node.bind fun source =>
        if (graph.node? source).isSome then none else some (input.name, source)) = none ↔
      ∀ source ∈ node.sources, (graph.node? source).isSome = true := by
    simp only [List.findSome?_eq_none_iff, List.mem_reverse, Option.bind_eq_none_iff, ite_eq_left_iff,
      reduceCtorEq, imp_false, Decidable.not_not, Node.sources, List.mem_filterMap]
    exact ⟨fun passes source ⟨input, listed, reads⟩ => passes input listed source reads,
      fun fed input listed source reads => fed source ⟨input, listed, reads⟩⟩
  rw [← missing, checkSources]
  -- The first missing source is the error, and there is no other one.
  cases (node.inputs.reverse.findSome? fun input =>
      input.node.bind fun source =>
        if (graph.node? source).isSome then none else some (input.name, source)) with
  | some _ => simp
  | none => simp

/-- Names of the graph are computed if what they draw on can be sorted and what is on the path draws on
them. -/
theorem exists_compute {graph : Graph} (path : List String) (done : List Node) (names : List String)
    (found : ∀ name ∈ names, (graph.node? name).isSome = true)
    (sortable : ∀ name ∈ names, graph.Sortable name)
    (above : ∀ reader ∈ path, ∀ name ∈ names, Relation.TransGen graph.Reads reader name) :
    ∃ result, graph.compute path done names = .ok result := by
  -- The induction follows the traversal, and each case of failure is ruled out.
  fun_induction graph.compute path done names with
  | case1 path done => exact ⟨done, rfl⟩
  | case2 path done name rest missing =>
    have there := found name List.mem_cons_self
    simp [missing] at there
  | case3 path done name rest node isNode seen ih =>
    exact ih (fun other later => found other (List.mem_cons_of_mem _ later))
      (fun other later => sortable other (List.mem_cons_of_mem _ later))
      fun reader onPath other later => above reader onPath other (List.mem_cons_of_mem _ later)
  | case4 path done name rest node isNode unseen onPath =>
    -- A name on the path would draw on itself.
    exact absurd (above name onPath name List.mem_cons_self)
      ((sortable name List.mem_cons_self).acyclic name .refl)
  | case5 path done name rest node isNode unseen off _ ihSources ihRest =>
    have sorts := sortable name List.mem_cons_self
    have reads : ∀ source ∈ node.sources, graph.Reads name source :=
      fun source isSource => ⟨node, isNode, isSource⟩
    have fed : ∀ source ∈ node.sources, (graph.node? source).isSome = true :=
      fun source isSource => sorts.fed name .refl source (reads source isSource)
    obtain ⟨computed, sources⟩ := ihSources fed (fun source isSource => sorts.source (reads source isSource))
      fun reader onPath source isSource => by
        rcases List.mem_cons.1 onPath with rfl | further
        · exact .single (reads source isSource)
        · exact (above reader further name List.mem_cons_self).tail (reads source isSource)
    obtain ⟨result, others⟩ := ihRest computed
      (fun other later => found other (List.mem_cons_of_mem _ later))
      (fun other later => sortable other (List.mem_cons_of_mem _ later))
      fun reader onPath other later => above reader onPath other (List.mem_cons_of_mem _ later)
    exact ⟨result, by simp only [checkSources_eq_ok_iff.2 fed, sources, bind, Except.bind, others]⟩

/-- There is an order of evaluation for a node of the graph if what it draws on can be sorted. -/
theorem exists_evaluationOrder {graph : Graph} {root : Node} (found : graph.node? root.name = some root)
    (sortable : graph.Sortable root.name) : ∃ order, graph.evaluationOrder root = .ok order := by
  -- All that is read is there and below its reader, so that the sources can be computed.
  have reads : ∀ source ∈ root.sources, graph.Reads root.name source :=
    fun source isSource => ⟨root, found, isSource⟩
  have fed : ∀ source ∈ root.sources, (graph.node? source).isSome = true :=
    fun source isSource => sortable.fed root.name .refl source (reads source isSource)
  obtain ⟨computed, sources⟩ := exists_compute [root.name] [] root.sources fed
    (fun source isSource => sortable.source (reads source isSource)) fun reader onPath source isSource =>
      List.mem_singleton.1 onPath ▸ .single (reads source isSource)
  exact ⟨computed ++ [root], by
    simp only [evaluationOrder, checkSources_eq_ok_iff.2 fed, sources, bind, Except.bind, pure, Except.pure]⟩

/-- An order of evaluation that there is lists the root last, each node once and after all that it reads,
and nothing but what the root draws on. -/
theorem evaluationOrder_ok {graph : Graph} {root : Node} {order : List Node}
    (found : graph.node? root.name = some root) (evaluates : graph.evaluationOrder root = .ok order) :
    Ordered graph order ∧ root ∈ order ∧
      ∀ node ∈ order, Relation.ReflTransGen graph.Reads root.name node.name := by
  obtain ⟨_, _, work⟩ := ok_of_bind evaluates
  obtain ⟨computed, sources, done⟩ := ok_of_bind work
  simp only [pure, Except.pure, Except.ok.injEq] at done
  subst done
  -- The sources are computed first, from nothing, with the root alone on the path.
  obtain ⟨valid, ⟨more, extends', feeds⟩, all⟩ := compute_ok sources .nil
  rw [List.nil_append] at extends'
  subst extends'
  -- The root is on the path, so it is not computed for its own sources.
  have new : root.name ∉ computed.map (·.name) :=
    @not_mem_of_onPath [root.name] [] computed _ List.not_mem_nil
      (fun other inside => (feeds other inside).1) List.mem_cons_self
  refine ⟨.snoc valid found new all, by simp, fun node inside => ?_⟩
  rcases List.mem_append.1 inside with before | last
  · obtain ⟨_, source, listed, draws⟩ := feeds node before
    exact .head ⟨root, found, listed⟩ draws
  · exact List.mem_singleton.1 last ▸ .refl

/-- Where there is an order of evaluation, what the root draws on can be sorted. -/
theorem sortable_of_evaluationOrder {graph : Graph} {root : Node} {order : List Node}
    (found : graph.node? root.name = some root) (evaluates : graph.evaluationOrder root = .ok order) :
    graph.Sortable root.name := by
  obtain ⟨ordered, last, _⟩ := evaluationOrder_ok found evaluates
  -- All that the root draws on is listed.
  have listed : ∀ {name}, Relation.ReflTransGen graph.Reads root.name name → name ∈ order.map (·.name) :=
    fun draws => ordered.closed (List.mem_map_of_mem last) draws
  refine ⟨fun reader draws source reads => ?_, fun reader draws => ordered.acyclic (listed draws)⟩
  obtain ⟨node, inside, rfl⟩ := List.mem_map.1 (listed (draws.tail reads))
  exact Option.isSome_of_eq_some (ordered.node?_eq inside)

/-- There is an order of evaluation for a node of the graph exactly if what it draws on can be sorted. -/
theorem exists_evaluationOrder_iff {graph : Graph} {root : Node} (found : graph.node? root.name = some root) :
    (∃ order, graph.evaluationOrder root = .ok order) ↔ graph.Sortable root.name :=
  -- One direction takes the traversal apart, the other runs it.
  ⟨fun ⟨_, evaluates⟩ => sortable_of_evaluationOrder found evaluates, exists_evaluationOrder found⟩

/-- The nodes of an order of evaluation are those of the graph and the root. -/
theorem mem_of_evaluationOrder {graph : Graph} {root node : Node} {order : List Node}
    (evaluates : graph.evaluationOrder root = .ok order) (member : node ∈ order) :
    node ∈ graph.nodes ∨ node = root := by
  obtain ⟨_, _, work⟩ := ok_of_bind evaluates
  obtain ⟨computed, sources, done⟩ := ok_of_bind work
  simp only [pure, Except.pure, Except.ok.injEq] at done
  subst done
  -- What is computed for the root's sources is found in the graph.
  rcases List.mem_append.1 member with inside | last
  · exact .inl (List.mem_of_find?_eq_some ((compute_ok sources .nil).1.node?_eq inside))
  · exact .inr (List.mem_singleton.1 last)

end Graph

end Document

end ShadeBake
