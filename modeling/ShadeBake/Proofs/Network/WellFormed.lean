import ShadeBake.Proofs.Conversion.Provenance
import ShadeBake.Proofs.Registry.Bundled

/-! Well-formed materials: what feeds a terminal is placed in one scope, is of bundled types, has values of the
shapes that these ask for, and feeds itself nowhere. -/

namespace ShadeBake

namespace NodePath

/-- A text is a component of a path when it is not empty and has no slash. -/
def IsComponent (text : String) : Prop :=
  text ≠ "" ∧ '/' ∉ text.toList

instance (text : String) : Decidable (IsComponent text) :=
  inferInstanceAs (Decidable (text ≠ "" ∧ '/' ∉ text.toList))

/-- The path of a component in a scope. -/
def below (scope leaf : String) : String :=
  scope ++ "/" ++ leaf

/-- The path of a component in a scope, from its end. -/
theorem reverse_toList_below (scope leaf : String) :
    (below scope leaf).toList.reverse = leaf.toList.reverse ++ '/' :: scope.toList.reverse := by
  -- From the end, the leaf comes before the slash.
  simp [below, String.toList_append]

variable {scope leaf : String} (component : IsComponent leaf)

include component

/-- No character of a component is a slash. -/
theorem IsComponent.ne_slash {c : Char} (inside : c ∈ leaf.toList.reverse) : c ≠ '/' :=
  -- A component has no slash in it.
  fun slash => component.2 (slash ▸ List.mem_reverse.1 inside)

/-- The last component of a path in a scope is the one that was put there. -/
@[simp] theorem leaf_below : NodePath.leaf (below scope leaf) = leaf := by
  -- All of the component is taken, and the slash in front of it ends it.
  rw [NodePath.leaf, lastPiece, reverse_toList_below, List.takeWhile_append_of_pos fun c inside =>
    decide_eq_true (component.ne_slash inside), List.takeWhile_cons_of_neg (by simp)]
  simp

/-- The component above the last one of a path in a scope is the last one of the scope. -/
@[simp] theorem parent_below : NodePath.parent (below scope leaf) = NodePath.leaf scope := by
  -- A component does not end in a slash, so nothing is trimmed.
  have trimmed : trimSlashes (below scope leaf).toList = (below scope leaf).toList := by
    have first : leaf.toList.reverse ≠ [] := by simpa using component.1
    obtain ⟨c, rest, split⟩ := List.exists_cons_of_ne_nil first
    have last : c ≠ '/' := component.ne_slash (split ▸ List.mem_cons_self)
    rw [trimSlashes, reverse_toList_below, split, List.cons_append,
      List.dropWhile_cons_of_neg (by simpa using last), ← List.cons_append, ← split, ← reverse_toList_below,
      List.reverse_reverse]
  have above : beforeLastSlash? (below scope leaf).toList = some scope.toList := by
    rw [beforeLastSlash?, reverse_toList_below, List.dropWhile_append_of_pos fun c inside =>
      decide_eq_true (component.ne_slash inside), List.dropWhile_cons_of_neg (by simp)]
    simp
  rw [NodePath.parent, trimmed, above]
  rfl

end NodePath

namespace Network

/-- A node feeds another one that draws on it by at least one reading. -/
def Feeds (network : Network) (node source : String) : Prop :=
  Relation.TransGen network.Reads node source

/-- All that feeds a node is in a closed list with the sources of that node. -/
theorem Feeds.mem {network : Network} {node path : String} {paths : List String}
    (feeds : network.Feeds node path) (closed : network.ClosedUpTo paths [])
    (start : ∀ source ∈ network.sources node, source ∈ paths) : path ∈ paths := by
  -- The first step leads to a source of the node, and a closed set holds what its members draw on.
  obtain ⟨source, reads, draws⟩ := Relation.TransGen.head'_iff.1 feeds
  exact closed.drawsOn (start source (mem_sources_iff.2 reads)) draws

/-- Where all sources are of a lower rank, no node feeds itself. -/
theorem not_feeds_self {network : Network} (rank : String → Nat)
    (lower : ∀ node ∈ network.nodeNames, ∀ source ∈ network.sources node, rank source < rank node)
    (path : String) : ¬network.Feeds path path := by
  have step : ∀ node source, network.Reads node source → rank source < rank node := by
    intro node source reads
    have listed := mem_sources_iff.2 reads
    obtain ⟨_, _, _, connected, _⟩ := reads
    exact lower node (mem_nodeNames_of_input? connected) source listed
  have below : ∀ node source, network.Feeds node source → rank source < rank node := by
    intro node source feeds
    -- The rank goes down with each reading.
    induction feeds with
    | single reads => exact step _ _ reads
    | tail _ reads ih => exact Nat.lt_trans (step _ _ reads) ih
  exact fun feeds => Nat.lt_irrefl _ (below path path feeds)

/-- A network is well-formed for a terminal when all that feeds the terminal feeds itself nowhere, is placed in
one scope, under names that no reader or remapper of another one has, is of a bundled type that is no surface,
reads outputs of the default name only, and has parameters of the shapes that its type declares. -/
structure WellFormed (network : Network) (terminal : String) : Prop where
  acyclic : ∀ path, network.Feeds terminal path → ¬network.Feeds path path
  placed : ∃ scope, ∀ path, network.Feeds terminal path →
    ∃ leaf, NodePath.IsComponent leaf ∧ path = NodePath.below scope leaf
  apart : ∀ path other, network.Feeds terminal path → network.Feeds terminal other →
    NodePath.leaf other ≠ Texture.readerName (NodePath.leaf path) ∧
      NodePath.leaf other ≠ Texture.remapperName (NodePath.leaf path)
  typed : ∀ path, network.Feeds terminal path → Registry.bundled.definition? (network.typeOf path) ≠ none
  inner : ∀ path, network.Feeds terminal path → ∀ surface : Surface, network.typeOf path ≠ surface.nodeType
  outputs : ∀ path, network.Feeds terminal path → ∀ name connection,
    network.input? path name = some connection →
      connection.output = "" ∨ connection.output = defaultOutputName
  shaped : ∀ path, network.Feeds terminal path → ∀ entry,
    Registry.bundled.definition? (network.typeOf path) = some entry → ∀ plug ∈ entry.inputs, ∀ value,
      network.parameter? path plug.name = some value → value.hasShape plug.type = true

/-- The path of the material is no part of what is well-formed. -/
theorem WellFormed.withPath {network : Network} {terminal : String} (wellFormed : network.WellFormed terminal)
    (materialPath : String) : { network with materialPath }.WellFormed terminal :=
  -- No condition looks at the path of the material.
  ⟨wellFormed.acyclic, wellFormed.placed, wellFormed.apart, wellFormed.typed, wellFormed.inner,
    wellFormed.outputs, wellFormed.shaped⟩

namespace WellFormed

variable {network : Network} {terminal : String} (wellFormed : network.WellFormed terminal)

include wellFormed

/-- The last components tell apart what feeds the terminal. -/
theorem leaf_inj {path other : String} (feeds : network.Feeds terminal path)
    (feeds' : network.Feeds terminal other) (same : NodePath.leaf path = NodePath.leaf other) :
    path = other := by
  -- All that feeds the terminal is in one scope, where the leaf is what tells paths apart.
  obtain ⟨scope, placed⟩ := wellFormed.placed
  obtain ⟨leaf, component, rfl⟩ := placed path feeds
  obtain ⟨leaf', component', rfl⟩ := placed other feeds'
  rw [NodePath.leaf_below component, NodePath.leaf_below component'] at same
  rw [same]

/-- What feeds the terminal is in one scope. -/
theorem parent_eq {path other : String} (feeds : network.Feeds terminal path)
    (feeds' : network.Feeds terminal other) : NodePath.parent path = NodePath.parent other := by
  -- The parent of each path is the scope.
  obtain ⟨scope, placed⟩ := wellFormed.placed
  obtain ⟨leaf, component, rfl⟩ := placed path feeds
  obtain ⟨leaf', component', rfl⟩ := placed other feeds'
  rw [NodePath.parent_below component, NodePath.parent_below component']

/-- The type of a node that feeds the terminal has a regular definition. -/
theorem exists_entry {path : String} (feeds : network.Feeds terminal path) :
    ∃ entry, Registry.bundled.definition? (network.typeOf path) = some entry ∧ entry.Regular := by
  -- The bundled entries are regular, and each type is that of one.
  obtain ⟨entry, found⟩ := Option.ne_none_iff_exists'.1 (wellFormed.typed path feeds)
  exact ⟨entry, found, Registry.regular_bundled found (wellFormed.inner path feeds)⟩

/-- A surface does not read itself. -/
theorem source_ne {surface : Surface} (typed : network.typeOf terminal = surface.nodeType) {input : String}
    {connection : Connection} (connected : network.input? terminal input = some connection) :
    connection.source ≠ terminal := by
  rintro rfl
  have present : network.hasNode connection.source = true := by
    rw [hasNode_iff, typed]
    cases surface <;> decide
  -- What feeds the terminal is no surface.
  exact wellFormed.inner _ (.single ⟨present, input, connection, connected, rfl⟩) surface typed

end WellFormed

end Network

end ShadeBake
