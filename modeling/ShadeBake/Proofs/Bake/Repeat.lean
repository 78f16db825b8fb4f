import ShadeBake.Proofs.Bake.Frame
import ShadeBake.Proofs.Conversion.Reordering

/-! A baked material is finished: its surface is bound to the closure, whose type no run defines, so that
another run finds nothing to do. -/

namespace ShadeBake

namespace Network

/-- Renaming the parameters of a terminal leaves the path of the material. -/
theorem materialPath_renameParameters (network : Network) (surface : Surface) (node : String) :
    (network.renameParameters surface node).materialPath = network.materialPath := by
  refine renameParameters_induction (fun after => after.materialPath = network.materialPath)
    (fun after name same => ?_) surface rfl
  rw [← same]
  -- Parameters are set and taken away in records only.
  rcases after.renameParameter_cases node name with idle | deleted | ⟨renamed, value, _, moved⟩
  · rw [idle]
  · rw [deleted]
    rfl
  · rw [moved]
    rfl

/-- Adapting a terminal leaves the path of the material. -/
theorem materialPath_adapt (network : Network) (terminal : String) (surface : Surface)
    (adapter closure : ShaderEntry) :
    (network.adapt terminal surface adapter closure).materialPath = network.materialPath := by
  -- Adapting renames parameters and connects the closure, which are changes to records.
  have connected : ∀ (network : Network) (names : List String),
      (names.foldl (connectClosure adapter terminal) network).materialPath = network.materialPath := by
    intro network names
    induction names generalizing network with
    | nil => rfl
    | cons name rest ih =>
      refine (ih _).trans ?_
      unfold connectClosure
      split
      · rfl
      · rfl
  exact (connected _ closure.inputNames).trans (materialPath_renameParameters _ surface terminal)

end Network

namespace Bake

variable {σ : Type} (context : BakeContext) (compile : Compiler σ) (registry : Registry) (compiler : σ)
  (network : Network)

/-- Transforming a terminal registers nothing. -/
theorem registry_transform (baked : Baked σ) (terminal : String) :
    (transform baked terminal).registry = baked.registry := by
  -- The registry is passed on whether the terminal is transformed or not.
  unfold transform
  split
  · rfl
  · rfl

/-- Transforming a terminal leaves the path of the material. -/
theorem materialPath_transform (baked : Baked σ) (terminal : String) :
    (transform baked terminal).network.materialPath = baked.network.materialPath := by
  -- A transformation that fails leaves the network, and otherwise it is the one that adapts.
  unfold transform
  cases done : baked.network.transformTerminal baked.registry terminal with
  | error warning => rfl
  | ok transformed =>
    obtain ⟨surface, adapter, closure, _, rfl⟩ := Network.eq_adapt_of_transformTerminal done
    exact Network.materialPath_adapt baked.network terminal surface adapter closure

/-- A run registers shaders only, so it leaves the definitions of all types. -/
theorem definition?_bake (type : String) :
    (network.bake context compile registry compiler).registry.definition? type =
      registry.definition? type := by
  -- What is registered on the way are compiled shaders, and those are no definitions.
  cases found : surfaceNode? registry network with
  | none =>
    unfold Network.bake
    rw [found]
    rfl
  | some terminal =>
    have records := rewriting_keepsRecords context compile registry compiler network terminal
    rw [bake_eq context compile registry compiler network terminal found, registry_transform,
      (convertInputs_eq context compile registry compiler network terminal).2.1, records.registered,
      Registry.definition?, Registry.findTyped?_insertAll]
    -- What was registered on the way are the entries of shaders that were compiled.
    have none : (Conversion.entries (Conversion.outcomes compile
        (routedDocument context registry network terminal).document context.library.searchPaths
        (rewriting context compile registry compiler network terminal).summary.firstLevel
        compiler)).reverse.find? (fun entry =>
          entry.identifier = type && entry.sourceType = ShaderEntry.definitionType) = none := by
      rw [List.find?_eq_none]
      intro entry inside
      obtain ⟨⟨node, outcome⟩, listed, rfl⟩ := List.mem_filterMap.1 (List.mem_reverse.1 inside)
      have shader := Conversion.sourceType_of_mem_outcomes listed
      simp [shader, ShaderEntry.shaderType, ShaderEntry.definitionType]
    rw [none, Option.none_or]
    rfl

/-- A run leaves the path of the material. -/
theorem materialPath_bake :
    (network.bake context compile registry compiler).network.materialPath = network.materialPath := by
  cases found : surfaceNode? registry network with
  | none =>
    unfold Network.bake
    rw [found]
    rfl
  | some terminal =>
    rw [bake_eq context compile registry compiler network terminal found, materialPath_transform,
      (convertInputs_eq context compile registry compiler network terminal).1]
    -- Pruning deletes nodes, after inputs were converted one by one.
    exact (Network.materialPath_deleteNodes _ _).trans (Conversion.materialPath_run _)

/-- A run that transforms its surface leaves the slot bound to a node of the closure's type. -/
theorem surface_of_transformed
    (done : (network.bake context compile registry compiler).report.transformed = true) :
    ∃ binding, (network.bake context compile registry compiler).network.terminal?
        Network.surfaceTerminal = some binding ∧
      (network.bake context compile registry compiler).network.typeOf binding.source = closureNodeType := by
  -- The transformed surface is bound to the closure, whose type is set when it is connected.
  cases found : surfaceNode? registry network with
  | none =>
    unfold Network.bake at done
    rw [found] at done
    simp [untouched] at done
  | some terminal =>
    obtain ⟨surface, adapter, closure, _, adapted, _⟩ :=
      bake_of_transformed context compile registry compiler network terminal found done
    rw [adapted]
    refine ⟨⟨closureNode terminal, ""⟩, ?_, ?_⟩
    · rw [(Network.adapted_adapt _ terminal surface adapter closure).bindings, if_pos rfl]
    · rw [Network.typeOf_adapt, if_pos rfl]

/-- There is no surface node where the closure's type is not defined and the slot is bound to a node of that
type. -/
theorem surfaceNode?_of_closure {binding : Connection} (undefined : registry.definition? closureNodeType = none)
    (bound : network.terminal? Network.surfaceTerminal = some binding)
    (closure : network.typeOf binding.source = closureNodeType) : surfaceNode? registry network = none := by
  -- The bound node has the closure's type, which the registry does not define.
  simp [surfaceNode?, bound, closure, undefined]

/-- After a run that transformed its surface, a run with whatever context and compiler finds nothing to do. -/
theorem bake_again {τ : Type} (again : BakeContext) (recompile : Compiler τ) (state : τ)
    (undefined : registry.definition? closureNodeType = none)
    (done : (network.bake context compile registry compiler).report.transformed = true) :
    let baked := network.bake context compile registry compiler
    baked.network.bake again recompile baked.registry state =
      untouched baked.registry state baked.network := by
  obtain ⟨binding, bound, closure⟩ := surface_of_transformed context compile registry compiler network done
  -- The first run has not defined the closure's type either.
  have still := (definition?_bake context compile registry compiler network closureNodeType).trans undefined
  have nothing := surfaceNode?_of_closure _ _ still bound closure
  intro baked
  unfold Network.bake
  rw [nothing]

end Bake

/-- Baking twice is baking once. After a run that transformed its surface, another run for the same material
leaves the network, the registry and the state of whatever compiler as they are, and its report is empty but
for the path. -/
theorem Network.bakeMaterial_twice {σ τ : Type} (context again : BakeContext) (compile : Compiler σ)
    (recompile : Compiler τ) (registry : Registry) (compiler : σ) (state : τ) (materialPath : String)
    (network : Network) (undefined : registry.definition? closureNodeType = none)
    (done : (network.bakeMaterial context compile registry compiler materialPath).report.transformed =
      true) :
    let baked := network.bakeMaterial context compile registry compiler materialPath
    baked.network.bakeMaterial again recompile baked.registry state materialPath = {
      network := baked.network
      registry := baked.registry
      compiler := state
      report := {
        materialPath := if materialPath = "" then network.materialPath else materialPath
        texturesUpdated := 0
        generated := 0
        compiled := 0
        converted := 0
        pruned := 0
        transformed := false
        warnings := [] } } := by
  intro baked
  -- The first run ran on the network with the path that it was given.
  generalize given : (if materialPath = "" then network else { network with materialPath }) = entry
  have first : baked = entry.bake context compile registry compiler := by
    simp only [baked, bakeMaterial, given]
  have path : baked.network.materialPath = entry.materialPath := by
    rw [first]
    exact Bake.materialPath_bake context compile registry compiler entry
  have named : entry.materialPath = if materialPath = "" then network.materialPath else materialPath := by
    rw [← given]
    split
    · rfl
    · rfl
  -- So the second run is given the path that the network has by then.
  have same : (if materialPath = "" then baked.network else { baked.network with materialPath }) =
      baked.network := by
    split
    · rfl
    · rename_i other
      rw [if_neg other] at named
      rw [← named, ← path]
  have transformed : (entry.bake context compile registry compiler).report.transformed = true := by
    rw [← first]
    exact done
  have finished := Bake.bake_again context compile registry compiler entry again recompile state undefined
    transformed
  rw [← first] at finished
  unfold bakeMaterial
  rw [same, finished, Bake.untouched, path, named]

namespace Bake.Layered

/-- The compiler that counts how often it is called. -/
def counting : Compiler Nat := fun name source calls =>
  ((Shared.compile name source ()).1, calls + 1)

/-- The first run converts a node and transforms the surface, and the second one calls no compiler. -/
theorem calls_none :
    let baked := network.bakeMaterial Shared.context Shared.compile registry () ""
    registry.definition? closureNodeType = none ∧
    (baked.report.converted, baked.report.transformed) = (1, true) ∧
    baked.network.bakeMaterial Shared.context counting baked.registry 0 "" =
      ⟨baked.network, baked.registry, 0, { materialPath := "/M" }⟩ := by
  -- The first bake transforms the terminal, so the second finds no surface to bake.
  have undefined : registry.definition? closureNodeType = none := by cbv
  have done := (Prod.mk.inj report).2
  intro baked
  exact ⟨undefined, report, Network.bakeMaterial_twice Shared.context Shared.context Shared.compile counting
    registry () 0 "" network undefined done⟩

end Bake.Layered

end ShadeBake
