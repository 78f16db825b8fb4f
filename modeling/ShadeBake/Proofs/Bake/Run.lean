import ShadeBake.Bake
import ShadeBake.Proofs.Bake.Closure
import ShadeBake.Proofs.Conversion.Survival

/-! What a run does to a network: it trims the network of what feeds nothing any more, and may adapt the
terminal. -/

namespace ShadeBake

namespace Bake

variable {σ : Type}

/-- The conversion of what feeds a terminal in a run, before anything is pruned. -/
def rewriting (context : BakeContext) (compile : Compiler σ) (registry : Registry) (compiler : σ)
    (network : Network) (terminal : String) : Conversion σ :=
  Conversion.run compile (routedDocument context registry network terminal).document
    context.library.searchPaths terminal { network, registry, compiler } (network.inputNames terminal)

/-- The nodes that a run prunes, in order. -/
def pruned (context : BakeContext) (compile : Compiler σ) (registry : Registry) (compiler : σ)
    (network : Network) (terminal : String) : List String :=
  let rewritten := rewriting context compile registry compiler network terminal
  rewritten.network.prunable terminal rewritten.candidates rewritten.keep

variable (context : BakeContext) (compile : Compiler σ) (registry : Registry) (compiler : σ)
  (network : Network) (terminal : String)

/-- The conversion in a run stays within the network. -/
theorem rewriting_within :
    Conversion.StaysWithin network terminal
      (rewriting context compile registry compiler network terminal) :=
  -- The run begins within the network, and no step leaves it.
  (Conversion.StaysWithin.start network registry compiler terminal).run compile _ _ _

/-- Nothing is pruned where the terminal reads nothing. -/
theorem pruned_of_inputNames_nil (nothing : network.inputNames terminal = []) :
    pruned context compile registry compiler network terminal = [] := by
  unfold pruned rewriting
  rw [nothing]
  -- No input was done, so there are no candidates.
  rfl

/-- Before the terminal is transformed, the network is trimmed of what the run prunes. -/
theorem trimmed_convertInputs :
    Network.Trimmed network terminal (pruned context compile registry compiler network terminal)
      (convertInputs context compile registry compiler network terminal).network := by
  unfold convertInputs
  by_cases nothing : network.inputNames terminal = []
  -- Without inputs nothing is converted and nothing is pruned.
  · rw [if_pos nothing, pruned_of_inputNames_nil context compile registry compiler network terminal nothing]
    exact Network.Trimmed.refl network terminal
  · rw [if_neg nothing]
    -- What was collected on the way existed on entry.
    have within := rewriting_within context compile registry compiler network terminal
    exact within.derives.trimmed fun node inside => within.present_of_gathered inside

/-- Before the terminal is transformed, none is reported to be. -/
theorem transformed_convertInputs :
    (convertInputs context compile registry compiler network terminal).report.transformed = false := by
  -- The report of a conversion is made without looking at the transformation.
  unfold convertInputs
  split
  · rfl
  · rfl

/-- Transforming a terminal leaves the network as it is, or adapts the terminal and reports that. -/
theorem transform_adapts (baked : Baked σ) (untransformed : baked.report.transformed = false)
    (terminal : String) :
    ((transform baked terminal).report.transformed = false ∧
      (transform baked terminal).network = baked.network) ∨
    ((transform baked terminal).report.transformed = true ∧
      Network.Adapted baked.network terminal (transform baked terminal).network) := by
  unfold transform
  -- Transforming fails with a warning and no change, or succeeds and is reported.
  cases done : baked.network.transformTerminal baked.registry terminal with
  | ok network => exact .inr ⟨rfl, Network.adapted_of_transformTerminal done⟩
  | error warning => exact .inl ⟨untransformed, rfl⟩

/-- A run leaves everything as it is, or trims the network of what is pruned and then possibly adapts the
terminal. -/
theorem bake_leaves :
    (surfaceNode? registry network = none ∧
      network.bake context compile registry compiler = untouched registry compiler network) ∨
    ∃ terminal trimmed, surfaceNode? registry network = some terminal ∧
      Network.Trimmed network terminal (pruned context compile registry compiler network terminal)
        trimmed ∧
      (((network.bake context compile registry compiler).report.transformed = false ∧
          (network.bake context compile registry compiler).network = trimmed) ∨
        ((network.bake context compile registry compiler).report.transformed = true ∧
          Network.Adapted trimmed terminal (network.bake context compile registry compiler).network)) := by
  unfold Network.bake
  cases bound : surfaceNode? registry network with
  | none => exact .inl ⟨rfl, rfl⟩
  | some terminal =>
    -- The inputs are converted first, which transforms nothing yet.
    exact .inr ⟨terminal, _, rfl, trimmed_convertInputs context compile registry compiler network terminal,
      transform_adapts _ (transformed_convertInputs context compile registry compiler network terminal)
        terminal⟩

end Bake

end ShadeBake
