import ShadeBake.Proofs.Bake.Complete

/-! What a run leaves alone: the nodes that the surface does not draw on, the names that are not there, and
the bindings of the other slots. -/

namespace ShadeBake

namespace Surface

/-- The type of a surface is not empty. -/
theorem ne_empty_of_ofNodeType {type : String} {surface : Surface}
    (typed : ofNodeType type = .ok surface) : type ≠ "" := by
  rintro rfl
  -- The empty type is neither of the two that have an adapter.
  simp [ofNodeType, nodeType] at typed

end Surface

namespace Network

/-- A node stands apart from the surface when the node that the surface is bound to neither draws on it nor
has it as its closure. -/
def ApartFromSurface (network : Network) (node : String) : Prop :=
  -- Every node draws on itself, so the one that the surface is bound to does not stand apart.
  ∀ binding, network.terminal? surfaceTerminal = some binding →
    ¬network.DrawsOn binding.source node ∧ node ≠ closureNode binding.source

end Network

namespace Conversion

variable {σ : Type}

/-- Converting and pruning leave the record of each node that the terminal does not draw on. -/
theorem KeepsRecords.get?_of_not_drawsOn {compile : Compiler σ} {document : Document}
    {searchPaths : List String} {registry : Registry} {compiler : σ} {origin : Network} {terminal : String}
    {conversion : Conversion σ}
    (records : KeepsRecords compile document searchPaths registry compiler origin terminal conversion)
    {node : String} (apart : ¬origin.DrawsOn terminal node) :
    (conversion.finish terminal).network.nodes.get? node = origin.nodes.get? node := by
  -- The terminal reads the nodes that were met, and these draw on all that was collected.
  have other : node ≠ terminal := fun same => apart (same ▸ .refl)
  have unmet : node ∉ conversion.summary.firstLevel := fun met =>
    apart (.single (records.within.kept node ((records.met node).1 met)))
  have stays : node ∉ (conversion.finish terminal).summary.pruned := by
    intro pruned
    obtain ⟨collected, _⟩ := Network.mem_prunable_iff.1 pruned
    obtain ⟨first, met, chain⟩ := records.within.gathered node collected
    exact apart (.head (records.within.kept first met) chain.to_reflTransGen)
  rw [records.get?_unmet unmet other, if_neg stays]

end Conversion

namespace Bake

variable {σ : Type} (context : BakeContext) (compile : Compiler σ) (registry : Registry) (compiler : σ)
  (network : Network)

/-- The conversion in a run keeps records. -/
theorem rewriting_keepsRecords (terminal : String) :
    Conversion.KeepsRecords compile (routedDocument context registry network terminal).document
      context.library.searchPaths registry compiler network terminal
      (rewriting context compile registry compiler network terminal) :=
  -- The records hold at the start, and every step keeps them.
  (Conversion.keepsRecords_start compile _ _ registry compiler network terminal).run _

/-- A run leaves the record of each node that stands apart from the surface. -/
theorem get?_bake {node : String} (apart : network.ApartFromSurface node) :
    (network.bake context compile registry compiler).network.nodes.get? node =
      network.nodes.get? node := by
  -- Without a surface nothing is done, and otherwise rewriting comes first and then the transformation.
  cases found : surfaceNode? registry network with
  | none =>
    unfold Network.bake
    rw [found]
    rfl
  | some terminal =>
    obtain ⟨output, binding⟩ := source_of_surfaceNode? registry network found
    obtain ⟨undrawn, notClosure⟩ := apart _ binding
    -- Rewriting keeps all records that the terminal does not draw on.
    have converted :
        (convertInputs context compile registry compiler network terminal).network.nodes.get? node =
          network.nodes.get? node := by
      rw [(convertInputs_eq context compile registry compiler network terminal).1]
      exact (rewriting_keepsRecords context compile registry compiler network terminal).get?_of_not_drawsOn
        undrawn
    rw [bake_eq context compile registry compiler network terminal found]
    -- Transforming changes nothing or adapts the terminal, which touches that and its closure.
    unfold transform
    cases done : (convertInputs context compile registry compiler network
        terminal).network.transformTerminal
      (convertInputs context compile registry compiler network terminal).registry terminal with
    | error warning => exact converted
    | ok transformed =>
      obtain ⟨surface, adapter, closure, _, rfl⟩ := Network.eq_adapt_of_transformTerminal done
      have other : node ≠ terminal := fun same => undrawn (same ▸ .refl)
      exact (Network.get?_adapt _ terminal surface adapter closure other notClosure).trans converted

/-- The surface node of a run that reports it transformed exists on entry. -/
theorem hasNode_of_transformed {terminal : String} (found : surfaceNode? registry network = some terminal)
    (done : (network.bake context compile registry compiler).report.transformed = true) :
    network.hasNode terminal = true := by
  obtain ⟨surface, _, _, typed, _⟩ :=
    bake_of_transformed context compile registry compiler network terminal found done
  have trims := trimmed_convertInputs context compile registry compiler network terminal
  rw [(convertInputs_eq context compile registry compiler network terminal).1] at trims
  -- Only a node with a type is transformed, and trimming makes no node.
  exact ((trims.present terminal).1 (Network.hasNode_iff.2 (Surface.ne_empty_of_ofNodeType typed))).1

/-- A run makes no node but the closure of a surface that it transforms. -/
theorem before_of_bake {node : String} :
    (node ∈ (network.bake context compile registry compiler).network.nodeNames →
      node ∈ network.nodeNames ∨
        ((network.bake context compile registry compiler).report.transformed = true ∧
          ∃ binding, network.terminal? Network.surfaceTerminal = some binding ∧
            node = closureNode binding.source)) ∧
    ((network.bake context compile registry compiler).network.hasNode node = true →
      network.hasNode node = true ∨
        ((network.bake context compile registry compiler).report.transformed = true ∧
          ∃ binding, network.terminal? Network.surfaceTerminal = some binding ∧
            node = closureNode binding.source)) := by
  -- A bake that changes anything trims the network, and after that perhaps adapts the terminal.
  rcases bake_leaves context compile registry compiler network with
    ⟨_, same⟩ | ⟨terminal, trimmed, found, trims, ⟨_, same⟩ | ⟨done, adapts⟩⟩
  · rw [same]
    exact ⟨.inl, .inl⟩
  · rw [same]
    exact ⟨fun recorded => .inl ((trims.records node).1 recorded).1,
      fun present => .inl ((trims.present node).1 present).1⟩
  -- What is new after adapting is the closure, as the terminal was there.
  · obtain ⟨output, binding⟩ := source_of_surfaceNode? registry network found
    have there := hasNode_of_transformed context compile registry compiler network found done
    constructor
    · intro recorded
      rcases (adapts.records node).1 recorded with isClosure | rfl | old
      · exact .inr ⟨done, _, binding, isClosure⟩
      · exact .inl (Network.mem_nodeNames_of_hasNode there)
      · exact .inl ((trims.records node).1 old).1
    · intro present
      rcases (adapts.present node).1 present with isClosure | rfl | old
      · exact .inr ⟨done, _, binding, isClosure⟩
      · exact .inl there
      · exact .inl ((trims.present node).1 old).1

/-- A run leaves each binding, but for that of a surface that it transforms. -/
theorem terminal?_bake {slot : String} (stays : slot ≠ Network.surfaceTerminal ∨
      (network.bake context compile registry compiler).report.transformed = false) :
    (network.bake context compile registry compiler).network.terminal? slot = network.terminal? slot := by
  rcases bake_leaves context compile registry compiler network with
    ⟨_, same⟩ | ⟨terminal, trimmed, _, trims, ⟨_, same⟩ | ⟨done, adapts⟩⟩
  · rw [same]
    rfl
  · rw [same, Network.terminal?, trims.bindings]
    rfl
  -- A transformed terminal rules out the second case, and only the surface is bound anew.
  · have elsewhere : slot ≠ Network.surfaceTerminal := stays.resolve_right (by simp [done])
    rw [adapts.bindings, if_neg elsewhere, Network.terminal?, trims.bindings]
    rfl

end Bake

/-- The frame of a run: each node that stands apart from the surface keeps its record, no node is made but
the closure of a transformed surface, and each binding stays but for that of a transformed surface. -/
theorem Network.bakeMaterial_frame {σ : Type} (context : BakeContext) (compile : Compiler σ)
    (registry : Registry) (compiler : σ) (materialPath : String) (network : Network) :
    let baked := network.bakeMaterial context compile registry compiler materialPath
    (∀ node, network.ApartFromSurface node →
      baked.network.nodes.get? node = network.nodes.get? node) ∧
    (∀ node, node ∈ baked.network.nodeNames → node ∈ network.nodeNames ∨
      (baked.report.transformed = true ∧ ∃ binding, network.terminal? surfaceTerminal = some binding ∧
        node = closureNode binding.source)) ∧
    (∀ node, baked.network.hasNode node = true → network.hasNode node = true ∨
      (baked.report.transformed = true ∧ ∃ binding, network.terminal? surfaceTerminal = some binding ∧
        node = closureNode binding.source)) ∧
    ∀ slot, slot ≠ surfaceTerminal ∨ baked.report.transformed = false →
      baked.network.terminal? slot = network.terminal? slot := by
  unfold bakeMaterial
  dsimp only
  -- The material's path is no part of the nodes or the bindings.
  split
  · exact ⟨fun _ => Bake.get?_bake context compile registry compiler network,
      fun _ => (Bake.before_of_bake context compile registry compiler network).1,
      fun _ => (Bake.before_of_bake context compile registry compiler network).2,
      fun _ => Bake.terminal?_bake context compile registry compiler network⟩
  · exact ⟨fun _ => Bake.get?_bake context compile registry compiler { network with materialPath },
      fun _ => (Bake.before_of_bake context compile registry compiler { network with materialPath }).1,
      fun _ => (Bake.before_of_bake context compile registry compiler { network with materialPath }).2,
      fun _ => Bake.terminal?_bake context compile registry compiler { network with materialPath }⟩

end ShadeBake
