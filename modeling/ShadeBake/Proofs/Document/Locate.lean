import ShadeBake.Document.Basic

/-! Finding nodes by name: what is found holds the name, and a name that one graph holds is found there. -/

namespace ShadeBake

namespace Document

variable {document : Document} {hint name : String}

/-- A name is found in a graph exactly if some node of it has that name. -/
theorem Graph.isSome_node?_iff {graph : Graph} :
    (graph.node? name).isSome = true ↔ name ∈ graph.nodes.map (·.name) := by
  -- The search goes by names.
  simp [node?]

/-- A position holds a name when there is a graph with a node of that name. -/
def HoldsAt (document : Document) (name : String) (position : Nat) : Prop :=
  ∃ graph, document.graphs[position]? = some graph ∧ (graph.node? name).isSome = true

/-- The graph that is searched for a name first: the first of the hinted name, if it holds the name, else the last one, if
that does, and else the first of all that do. -/
inductive Located (document : Document) (hint name : String) : Nat → Prop
  | hinted {position : Nat} (named : document.graphs.findIdx? (·.name = hint) = some position)
      (holds : document.HoldsAt name position) : Located document hint name position
  | last {position : Nat}
      (unhinted : ∀ other, document.graphs.findIdx? (·.name = hint) = some other → ¬document.HoldsAt name other)
      (isLast : position + 1 = document.graphs.length) (holds : document.HoldsAt name position) :
      Located document hint name position
  | first {position : Nat}
      (unhinted : ∀ other, document.graphs.findIdx? (·.name = hint) = some other → ¬document.HoldsAt name other)
      (notLast : ∀ other, other + 1 = document.graphs.length → ¬document.HoldsAt name other)
      (holds : document.HoldsAt name position) (least : ∀ other < position, ¬document.HoldsAt name other) :
      Located document hint name position

/-- A position holds a name exactly if the graph there, if any, passes the test for it. -/
theorem any_eq_true_iff_holdsAt {position : Nat} :
    (document.graphs[position]?).any (fun graph => (graph.node? name).isSome) = true ↔
      document.HoldsAt name position :=
  -- Some graph stands at the position, and it has the name.
  Option.any_eq_true _ _

/-- The last graph passes the test for a name exactly if its position holds the name. -/
theorem last_eq_some_iff {position : Nat} :
    (if (document.graphs.getLast?).any (fun graph => (graph.node? name).isSome) then
        some (document.graphs.length - 1) else none) = some position ↔
      position + 1 = document.graphs.length ∧ document.HoldsAt name position := by
  rw [List.getLast?_eq_getElem?, Option.ite_none_right_eq_some, any_eq_true_iff_holdsAt, Option.some.injEq]
  constructor
  · intro isLast
    obtain ⟨holds, rfl⟩ := isLast
    -- A position that holds something is in the list, so that the list is not empty.
    have bound : document.graphs.length - 1 < document.graphs.length := by
      obtain ⟨graph, there, _⟩ := holds
      exact (List.getElem?_eq_some_iff.1 there).1
    exact ⟨by omega, holds⟩
  · intro isLast
    obtain ⟨isLast, holds⟩ := isLast
    have same : document.graphs.length - 1 = position := by omega
    exact ⟨same ▸ holds, same⟩

/-- The first graph that passes the test for a name is the first that holds it. -/
theorem findIdx?_eq_some_iff_holdsAt {position : Nat} :
    document.graphs.findIdx? (fun graph => (graph.node? name).isSome) = some position ↔
      document.HoldsAt name position ∧ ∀ other < position, ¬document.HoldsAt name other := by
  -- Positions within the list are those that can hold a node.
  have holds {other : Nat} (bound : other < document.graphs.length) :
      (document.graphs[other].node? name).isSome = true ↔ document.HoldsAt name other := by
    rw [← any_eq_true_iff_holdsAt, List.getElem?_eq_getElem bound, Option.any_some]
  rw [List.findIdx?_eq_some_iff_getElem]
  constructor
  · intro found
    obtain ⟨bound, here, before⟩ := found
    exact ⟨(holds bound).1 here, fun other less holds' => before other less ((holds (by omega)).2 holds')⟩
  · intro first
    obtain ⟨here, before⟩ := first
    -- A position that holds the name is within the list.
    have bound : position < document.graphs.length := by
      obtain ⟨graph, there, _⟩ := here
      exact (List.getElem?_eq_some_iff.1 there).1
    exact ⟨bound, (holds bound).2 here, fun other less holds' => before other less ((holds (by omega)).1 holds')⟩

/-- The graph that is found is the one that is located. -/
theorem findGraph?_eq_some_iff {position : Nat} :
    document.findGraph? hint name = some position ↔ document.Located hint name position := by
  have hinted : (document.graphs.findIdx? (·.name = hint)).filter (fun position =>
      (document.graphs[position]?).any fun graph => (graph.node? name).isSome) = none ↔
      ∀ other, document.graphs.findIdx? (·.name = hint) = some other → ¬document.HoldsAt name other := by
    simp only [Option.filter_eq_none_iff, any_eq_true_iff_holdsAt]
  have last : (if (document.graphs.getLast?).any (fun graph => (graph.node? name).isSome) then
        some (document.graphs.length - 1) else none) = none ↔
      ∀ other, other + 1 = document.graphs.length → ¬document.HoldsAt name other := by
    rw [Option.eq_none_iff_forall_ne_some]
    exact forall_congr' fun other => (not_congr last_eq_some_iff).trans not_and
  unfold findGraph?
  -- Each of the three searches counts if those before it find nothing.
  simp only [Option.orElse_eq_orElse, Option.orElse_eq_or, Option.or_eq_some_iff]
  rw [hinted, last, last_eq_some_iff, findIdx?_eq_some_iff_holdsAt, Option.filter_eq_some_iff,
    any_eq_true_iff_holdsAt]
  -- The three rules are the three ways in which such a search ends.
  constructor
  · intro found
    rcases found with ⟨named, holds⟩ | ⟨unhinted, ⟨isLast, holds⟩ | ⟨notLast, holds, least⟩⟩
    · exact .hinted named holds
    · exact .last unhinted isLast holds
    · exact .first unhinted notLast holds least
  · intro located
    cases located with
    | hinted named holds => exact .inl ⟨named, holds⟩
    | last unhinted isLast holds => exact .inr ⟨unhinted, .inl ⟨isLast, holds⟩⟩
    | first unhinted notLast holds least => exact .inr ⟨unhinted, .inr ⟨notLast, holds, least⟩⟩

/-- A graph that is found holds the name. -/
theorem holdsAt_of_findGraph? {position : Nat} (located : document.findGraph? hint name = some position) :
    document.HoldsAt name position := by
  -- The graph is the hinted one, the last, or the first that holds the name.
  cases findGraph?_eq_some_iff.1 located with
  | hinted _ holds => exact holds
  | last _ _ holds => exact holds
  | first _ _ holds _ => exact holds

/-- A graph is found if some graph holds the name. -/
theorem findGraph?_isSome {position : Nat} (holds : document.HoldsAt name position) (hint : String) :
    (document.findGraph? hint name).isSome = true := by
  obtain ⟨graph, there, inside⟩ := holds
  unfold findGraph?
  simp only [Option.orElse_eq_orElse, Option.orElse_eq_or, Option.isSome_or, Bool.or_eq_true]
  -- Where the hint and the last graph do not help, all graphs are searched.
  refine .inr (.inr ?_)
  rw [List.findIdx?_isSome, List.any_eq_true]
  exact ⟨graph, List.mem_of_getElem? there, inside⟩

/-- A name that only one graph holds is found in that graph, whatever the hint. -/
theorem findNode?_of_only {position : Nat} {graph : Graph} {node : Node} (hint : String)
    (there : document.graphs[position]? = some graph) (found : graph.node? name = some node)
    (only : ∀ other, document.HoldsAt name other → other = position) :
    document.findNode? hint name = some (graph, node) := by
  have holds : document.HoldsAt name position := ⟨graph, there, by simp [found]⟩
  -- Some graph is found, and there is only one that it can be.
  obtain ⟨other, located⟩ := Option.isSome_iff_exists.1 (findGraph?_isSome holds hint)
  have same := only other (holdsAt_of_findGraph? located)
  subst same
  simp [findNode?, located, there, found]

end Document

end ShadeBake
