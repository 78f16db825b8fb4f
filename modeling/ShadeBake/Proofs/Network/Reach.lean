import Mathlib.Logic.Function.Iterate
import Mathlib.Logic.Relation
import Mathlib.Order.Bounds.Defs
import ShadeBake.Proofs.Network.Update

/-! The visited nodes of a network are exactly those that the roots draw on: the least set that holds the roots
and all that its members read. -/

namespace ShadeBake

namespace Network

/-- A node reads an existing node when one of its inputs is connected to it. -/
def Reads (network : Network) (node source : String) : Prop :=
  -- Which output is read does not matter here.
  network.hasNode source = true ∧
    ∃ name connection, network.input? node name = some connection ∧ connection.source = source

/-- A node draws on itself, on all that it reads, and on all that these draw on. -/
def DrawsOn (network : Network) : String → String → Prop :=
  Relation.ReflTransGen network.Reads

/-- The listed sources of a node are the nodes that it reads. -/
theorem mem_sources_iff {network : Network} {node source : String} :
    source ∈ network.sources node ↔ network.Reads node source := by
  simp only [sources, Reads, List.mem_filter, List.mem_map, Prod.exists, mem_inputs_iff]
  -- A listed source comes from a listed connection, and only existing ones are kept.
  constructor
  · rintro ⟨⟨name, connection, connected, same⟩, present⟩
    exact ⟨present, name, connection, connected, same⟩
  · rintro ⟨present, name, connection, connected, same⟩
    exact ⟨⟨name, connection, connected, same⟩, present⟩

/-- A visit adds nodes behind those visited before. -/
theorem visited_isPrefix_visit (network : Network) (visited stack : List String) :
    visited <+: network.visit visited stack := by
  -- The induction follows the stack; a node is only ever added at the end.
  fun_induction network.visit visited stack with
  | case1 visited => exact List.prefix_refl visited
  | case2 visited node rest seen ih => exact ih
  | case3 visited node rest fresh ih => exact (List.prefix_append visited [node]).trans ih

/-- No node is visited twice. -/
theorem visit_nodup {network : Network} {visited stack : List String} (nodup : visited.Nodup) :
    (network.visit visited stack).Nodup := by
  fun_induction network.visit visited stack with
  | case1 visited => exact nodup
  | case2 visited node rest seen ih => exact ih nodup
  | case3 visited node rest fresh ih =>
    refine ih (List.nodup_append.2 ⟨nodup, by simp, ?_⟩)
    -- The node is new to the visited ones.
    intro old inside new isNode equal
    rw [List.mem_singleton] at isNode
    exact fresh (isNode ▸ equal ▸ inside)

/-- A visited node was visited before, or something on the stack draws on it. -/
theorem mem_visit {network : Network} {visited stack : List String} {name : String}
    (member : name ∈ network.visit visited stack) :
    name ∈ visited ∨ ∃ root ∈ stack, network.DrawsOn root name := by
  fun_induction network.visit visited stack with
  | case1 visited => exact .inl member
  | case2 visited node rest seen ih =>
    -- A visited node on top is dropped, and nothing else changes.
    rcases ih member with old | ⟨root, inside, draws⟩
    · exact .inl old
    · exact .inr ⟨root, List.mem_cons_of_mem _ inside, draws⟩
  | case3 visited node rest fresh ih =>
    rcases ih member with old | ⟨root, inside, draws⟩
    · rcases List.mem_append.1 old with before | now
      · exact .inl before
      · rw [List.mem_singleton] at now
        exact .inr ⟨node, List.mem_cons_self, now ▸ Relation.ReflTransGen.refl⟩
    · rcases List.mem_append.1 inside with source | later
      -- What was put on the stack for the node is read by it.
      · have reads := mem_sources_iff.1 (List.mem_reverse.1 source)
        exact .inr ⟨node, List.mem_cons_self, Relation.ReflTransGen.head reads draws⟩
      · exact .inr ⟨root, List.mem_cons_of_mem _ later, draws⟩

/-- A set of names is closed up to a stack when all that its members read is in it or on the stack. -/
def ClosedUpTo (network : Network) (visited stack : List String) : Prop :=
  -- With an empty stack this says that nothing outside is read from inside.
  ∀ node ∈ visited, ∀ source, network.Reads node source → source ∈ visited ∨ source ∈ stack

/-- A closed set is closed up to any stack. -/
theorem ClosedUpTo.weaken {network : Network} {visited stack : List String}
    (closed : network.ClosedUpTo visited []) : network.ClosedUpTo visited stack :=
  -- What is already visited needs no stack.
  fun reader inside source reads =>
    (closed reader inside source reads).imp_right fun nothing => absurd nothing List.not_mem_nil

/-- A visit that starts closed up to its stack ends closed, with all of the stack visited. -/
theorem visit_closed {network : Network} {visited stack : List String}
    (closed : network.ClosedUpTo visited stack) :
    network.ClosedUpTo (network.visit visited stack) [] ∧
      ∀ root ∈ stack, root ∈ network.visit visited stack := by
  fun_induction network.visit visited stack with
  | case1 visited => exact ⟨closed, fun root inside => absurd inside List.not_mem_nil⟩
  | case2 visited node rest seen ih =>
    -- The node on top is visited, so it is not missed on the stack.
    obtain ⟨closes, holds⟩ := ih fun reader inside source reads => by
      rcases closed reader inside source reads with old | pending
      · exact .inl old
      · rcases List.mem_cons.1 pending with same | later
        · exact .inl (same ▸ seen)
        · exact .inr later
    refine ⟨closes, fun root inside => ?_⟩
    rcases List.mem_cons.1 inside with same | later
    · exact (visited_isPrefix_visit network visited rest).subset (same ▸ seen)
    · exact holds root later
  | case3 visited node rest fresh ih =>
    obtain ⟨closes, holds⟩ := ih fun reader inside source reads => by
      rcases List.mem_append.1 inside with old | new
      · rcases closed reader old source reads with before | pending
        · exact .inl (List.mem_append_left _ before)
        · rcases List.mem_cons.1 pending with same | later
          · exact .inl (List.mem_append_right _ (List.mem_singleton.2 same))
          · exact .inr (List.mem_append_right _ later)
      -- What the new node reads was put on the stack.
      · rw [List.mem_singleton] at new
        subst new
        exact .inr (List.mem_append_left _ (List.mem_reverse.2 (mem_sources_iff.2 reads)))
    refine ⟨closes, fun root inside => ?_⟩
    rcases List.mem_cons.1 inside with same | later
    · exact (visited_isPrefix_visit network _ _).subset
        (List.mem_append_right _ (List.mem_singleton.2 same))
    · exact holds root (List.mem_append_right _ later)

/-- A closed set contains all that its members draw on. -/
theorem ClosedUpTo.drawsOn {network : Network} {visited : List String} {node source : String}
    (closed : network.ClosedUpTo visited []) (inside : node ∈ visited)
    (draws : network.DrawsOn node source) : source ∈ visited := by
  -- Along the chain each node is in the set because the one before it is.
  induction draws with
  | refl => exact inside
  | tail _ reads ih =>
    rcases closed _ ih _ reads with member | nothing
    · exact member
    · exact absurd nothing List.not_mem_nil

/-- After a visit from a closed set, the visited nodes are the old ones and all that the stack draws on. -/
theorem mem_visit_iff {network : Network} {visited stack : List String} {name : String}
    (closed : network.ClosedUpTo visited []) :
    name ∈ network.visit visited stack ↔
      name ∈ visited ∨ ∃ root ∈ stack, network.DrawsOn root name := by
  constructor
  · exact mem_visit
  · obtain ⟨closes, holds⟩ := visit_closed (closed.weaken : network.ClosedUpTo visited stack)
    -- What was visited stays so, and the visited nodes are closed in the end.
    rintro (old | ⟨root, inside, draws⟩)
    · exact (visited_isPrefix_visit network visited stack).subset old
    · exact closes.drawsOn (holds root inside) draws

/-- The reachable nodes are exactly those that a root draws on. -/
theorem mem_reachable_iff {network : Network} {roots : List String} {name : String} :
    (network.reachable roots).contains name = true ↔ ∃ root ∈ roots, network.DrawsOn root name := by
  -- The visit starts with the roots on the stack and nothing visited.
  rw [reachable, Dict.contains_iff, NameSet.mem_keys_ofList,
    mem_visit_iff fun reader inside => absurd inside List.not_mem_nil]
  simp

/-! ### How a visit ends -/

/-- One step of a visit, on the visited nodes and the stack: the node on top leaves the stack, and where it was
not visited before, all that it reads takes its place. -/
def visitStep (network : Network) : List String × List String → List String × List String
  | (visited, []) => (visited, [])
  | (visited, node :: rest) =>
    if node ∈ visited then (visited, rest)
    else (visited ++ [node], (network.sources node).reverse ++ rest)

/-- How often nodes are on the stack of a visit: once for every place in the stack that it starts with, and
once for every connection through which a newly visited node reads an existing one. -/
def visitLength (network : Network) (visited stack : List String) : Nat :=
  stack.length + (((network.visit visited stack).drop visited.length).flatMap network.sources).length

/-- Step by step, a visit empties its stack, and each node that was ever on it takes one step. -/
theorem iterate_visitStep (network : Network) (visited stack : List String) :
    network.visitStep^[network.visitLength visited stack] (visited, stack) =
      (network.visit visited stack, []) := by
  unfold visitLength
  fun_induction network.visit visited stack with
  | case1 visited => simp
  | case2 visited node rest seen ih =>
    -- Nothing is new, and the stack is shorter by one node.
    have taken : network.visitStep (visited, node :: rest) = (visited, rest) := if_pos seen
    rw [List.length_cons, Nat.add_right_comm, Function.iterate_succ_apply, taken, ih]
  | case3 visited node rest fresh ih =>
    have taken : network.visitStep (visited, node :: rest) =
        (visited ++ [node], (network.sources node).reverse ++ rest) := if_neg fresh
    -- The first newly visited node is this one, and what it reads is on the stack now.
    obtain ⟨later, whole⟩ := visited_isPrefix_visit network (visited ++ [node])
      ((network.sources node).reverse ++ rest)
    rw [← whole] at ih ⊢
    rw [List.drop_left] at ih
    rw [List.append_assoc, List.drop_left, List.singleton_append, List.flatMap_cons]
    have count : (node :: rest).length + (network.sources node ++ later.flatMap network.sources).length =
        ((network.sources node).reverse ++ rest).length + (later.flatMap network.sources).length + 1 := by
      simp only [List.length_cons, List.length_append, List.length_reverse]
      omega
    rw [count, Function.iterate_succ_apply, taken, ih, List.append_assoc, List.singleton_append]

/-- For every network and all roots, whether they exist or not, the visit that starts with the roots ends with an
empty stack, after as many steps as there are roots and connections from visited nodes to existing ones; and the
names visited by then are the least set that holds the roots and, with a node, every existing node that one of
its inputs is connected to. -/
theorem reachable_isLeast (network : Network) (roots : List String) :
    (∃ visited, network.visitStep^[roots.length + (visited.flatMap network.sources).length]
          ([], roots.reverse) = (visited, []) ∧
      network.reachable roots = NameSet.ofList visited) ∧
    IsLeast {nodes : Set String | (∀ root ∈ roots, root ∈ nodes) ∧
        ∀ node ∈ nodes, ∀ source, network.Reads node source → source ∈ nodes}
      {node | (network.reachable roots).contains node = true} := by
  refine ⟨⟨network.visit [] roots.reverse, ?_, rfl⟩, ⟨fun root inside => ?_, fun node inside source reads => ?_⟩,
    fun nodes closed node inside => ?_⟩
  · have ends := network.iterate_visitStep [] roots.reverse
    rwa [visitLength, List.length_reverse, List.length_nil, List.drop_zero] at ends
  · exact mem_reachable_iff.2 ⟨root, inside, .refl⟩
  · obtain ⟨root, listed, draws⟩ := mem_reachable_iff.1 inside
    exact mem_reachable_iff.2 ⟨root, listed, draws.tail reads⟩
  -- Along the chain from its root, every node is in any set that is closed in this way.
  · obtain ⟨root, listed, draws⟩ := mem_reachable_iff.1 inside
    induction draws with
    | refl => exact closed.1 root listed
    | tail before reads ih => exact closed.2 _ (ih (mem_reachable_iff.2 ⟨root, listed, before⟩)) _ reads

end Network

end ShadeBake
