import ShadeBake.Proofs.Bake.Complete
import ShadeBake.Proofs.Network.Form

/-! A network that was read, and whatever runs make of it, reads back from what is written for it: a run makes
up no parameter, so none of them can be taken for another kind than it is. -/

namespace ShadeBake

open Json (Tree)

namespace Network

/-- A network inherits from another when each value of its parameters is one that the same node has in the
other, under whatever name. -/
def Inherits (network origin : Network) : Prop :=
  ∀ node name value, network.parameter? node name = some value →
    ∃ earlier, origin.parameter? node earlier = some value

namespace Inherits

variable {network between origin : Network}

/-- Every network inherits from itself. -/
theorem refl (network : Network) : Inherits network network :=
  -- Every parameter is its own origin.
  fun _ name _ given => ⟨name, given⟩

/-- What is inherited from an heir is inherited from its origin. -/
theorem trans (late : Inherits network between) (early : Inherits between origin) : Inherits network origin := by
  -- A name that a value had in the middle network it had under some name in the first.
  intro node name value given
  obtain ⟨earlier, held⟩ := late node name value given
  exact early node earlier value held

/-- A network with the same parameters inherits. -/
theorem of_eq (same : ∀ node name, network.parameter? node name = origin.parameter? node name) :
    Inherits network origin :=
  -- The parameter has the same name in the origin.
  fun node name _ given => ⟨name, same node name ▸ given⟩

end Inherits

variable (network : Network)

/-- Stripping a node makes up no parameter. -/
theorem inherits_stripNode (node : String) : Inherits (network.stripNode node) network := by
  -- A stripped node has no parameters, and all others keep theirs.
  intro other name value given
  rw [parameter?_stripNode] at given
  split at given
  · simp at given
  · exact ⟨name, given⟩

/-- Taking a parameter away makes up none. -/
theorem inherits_deleteParameter (node name : String) : Inherits (network.deleteParameter node name) network := by
  -- What is left was there under the same name.
  intro other slot value given
  rw [parameter?_deleteParameter] at given
  split at given
  · simp at given
  · exact ⟨slot, given⟩

/-- Deleting nodes makes up no parameter. -/
theorem inherits_deleteNodes (names : List String) : Inherits (network.deleteNodes names) network := by
  -- A node that is left has the record that it had.
  intro node name value given
  rw [parameter?, get?_deleteNodes] at given
  split at given
  · simp at given
  · exact ⟨name, given⟩

/-- Renaming a parameter moves its value. -/
theorem inherits_renameParameter (node name : String) : Inherits (network.renameParameter node name) network := by
  rcases network.renameParameter_cases node name with same | deleted | ⟨renamed, value, held, moved⟩
  · rw [same]
    exact Inherits.refl network
  · rw [deleted]
    exact inherits_deleteParameter network node name
  -- The value is set under the new name of the same node.
  · rw [moved]
    refine (inherits_deleteParameter _ node name).trans ?_
    intro other slot found given
    rw [parameter?_setParameter] at given
    split at given
    · rename_i here
      cases given
      exact ⟨name, here.1 ▸ held⟩
    -- All other parameters are what they were.
    · exact ⟨slot, given⟩

/-- Renaming all parameters of a terminal moves their values. -/
theorem inherits_renameParameters (surface : Surface) (node : String) :
    Inherits (network.renameParameters surface node) network :=
  -- What is inherited by one network after the other is inherited by the last.
  renameParameters_induction (Inherits · network)
    (fun after name inherits => (inherits_renameParameter after node name).trans inherits) surface
    (Inherits.refl network)

/-- Adapting a terminal makes up no parameter. -/
theorem inherits_adapt (terminal : String) (surface : Surface) (adapter closure : ShaderEntry) :
    Inherits (network.adapt terminal surface adapter closure) network := by
  -- The closure is made and connected without parameters.
  have connected := (connectClosure_foldl
    (((network.setType terminal surface.adapter).renameParameters surface terminal).setType
      (closureNode terminal) closureNodeType) terminal adapter closure.inputNames).1.parameters
  have opened : ∀ node name, (network.adapt terminal surface adapter closure).parameter? node name =
      ((network.setType terminal surface.adapter).renameParameters surface terminal).parameter? node name :=
    fun node name => (connected node name).trans (parameter?_setType ..)
  refine (Inherits.of_eq opened).trans ((inherits_renameParameters _ surface terminal).trans ?_)
  exact Inherits.of_eq fun node name => parameter?_setType ..

end Network

namespace Conversion

variable {σ : Type} {compile : Compiler σ} {document : Document} {searchPaths : List String}
  {terminal input : String} {conversion next : Conversion σ}

/-- A transition makes up no parameter. -/
theorem Transition.inherits
    (moves : Transition compile document searchPaths terminal conversion input next) :
    next.network.Inherits conversion.network := by
  cases moves with
  | unconnected absent => exact .refl _
  | dangling connected missing => exact .refl _
  | unconverted connected present met plain => exact .refl _
  | rebound connected present met shader =>
    exact .of_eq fun node name => Network.parameter?_bindConverted ..
  | failed connected present new nothing => exact .refl _
  -- The node that is converted loses its parameters.
  | converted connected present new shader =>
    refine (Network.inherits_stripNode _ _).trans (.of_eq fun node name => ?_)
    exact (Network.parameter?_bindConverted ..).trans (Network.parameter?_setType ..)

/-- A run over inputs makes up no parameter. -/
theorem inherits_run (inputs : List String) :
    (Conversion.run compile document searchPaths terminal conversion inputs).network.Inherits
      conversion.network := by
  -- No step of the run gives a node a value that it did not have.
  unfold Conversion.run
  induction inputs generalizing conversion with
  | nil => exact .refl _
  | cons input rest ih =>
    have moves := step_transition compile document searchPaths terminal conversion input
    exact ih.trans moves.inherits

end Conversion

namespace Bake

variable {σ : Type} (context : BakeContext) (compile : Compiler σ) (registry : Registry) (compiler : σ)
  (network : Network)

/-- A run makes up no parameter. -/
theorem inherits_bake : (network.bake context compile registry compiler).network.Inherits network := by
  -- Nothing is done without a surface, and otherwise each of the three stages inherits.
  cases found : surfaceNode? registry network with
  | none =>
    unfold Network.bake
    rw [found]
    exact .refl network
  | some terminal =>
    rw [bake_eq context compile registry compiler network terminal found]
    -- First inputs are converted and nodes pruned, then the terminal may be adapted.
    have converted : (convertInputs context compile registry compiler network terminal).network.Inherits
        network := by
      rw [(convertInputs_eq context compile registry compiler network terminal).1]
      exact (Network.inherits_deleteNodes _ _).trans (Conversion.inherits_run _)
    refine Network.Inherits.trans ?_ converted
    unfold transform
    cases done : (convertInputs context compile registry compiler network terminal).network.transformTerminal
        (convertInputs context compile registry compiler network terminal).registry terminal with
    | error warning => exact .refl _
    | ok transformed =>
      obtain ⟨surface, adapter, closure, _, rfl⟩ := Network.eq_adapt_of_transformTerminal done
      exact Network.inherits_adapt _ terminal surface adapter closure

end Bake

namespace Network

/-- A network bakes to another when some run on it leaves that one. -/
def BakesTo (network baked : Network) : Prop :=
  ∃ (σ : Type) (context : BakeContext) (compile : Compiler σ) (registry : Registry) (compiler : σ)
    (materialPath : String),
    baked = (network.bakeMaterial context compile registry compiler materialPath).network

/-- A baked network inherits from the one that it was baked from. -/
theorem BakesTo.inherits {network baked : Network} (bakes : network.BakesTo baked) :
    baked.Inherits network := by
  obtain ⟨σ, context, compile, registry, compiler, materialPath, rfl⟩ := bakes
  refine (Bake.inherits_bake context compile registry compiler _).trans ?_
  -- The path of the material is no parameter.
  split
  · exact Inherits.refl network
  · exact Inherits.refl network

/-- After any number of runs a network still inherits from the first. -/
theorem inherits_of_bakes {origin network : Network} (runs : Relation.ReflTransGen BakesTo origin network) :
    network.Inherits origin := by
  -- One more bake is at the end of the run.
  induction runs with
  | refl => exact Inherits.refl origin
  | tail _ last ih => exact last.inherits.trans ih

/-- A network that was read from a form without repeated names, and all that any number of runs make of it,
reads back from its JSON form as it is, types, parameters of either kind, connections and bindings. So it does
from its text, if the text writes that form and the first form was one that a text can have. -/
theorem reads_back {tree : Tree} {room : Nat} {origin network : Network} (unique : tree.NamesUnique)
    (read : ofTree? room tree = some origin) (runs : Relation.ReflTransGen BakesTo origin network) :
    ofJson? network.toJson = some network ∧
    (Tree.ofText? network.toText = some network.toJson.toTree → room ≤ Json.depthLimit →
      ofText? network.toText = some network) := by
  have inherited : ∀ node name parameter, network.parameter? node name = some parameter →
      parameter.Genuine ∧ parameter.toJson.depth ≤ max (room - 4) 1 := by
    intro node name parameter given
    -- What a run writes is a parameter that the network had, perhaps under another name.
    obtain ⟨earlier, held⟩ := inherits_of_bakes runs node name parameter given
    exact genuine_of_ofTree? unique read held
  have genuine := fun node name parameter given => (inherited node name parameter given).1
  refine ⟨ofTree?_toJson genuine (Nat.le_refl _), fun parses shallow => ?_⟩
  -- No run nests deeper than the five levels that connections of inputs need.
  have fits : network.toJson.depth ≤ Json.depthLimit := by
    have depth := depth_toJson_le (Nat.le_max_right (room - 4) 1) fun node name parameter given =>
      (inherited node name parameter given).2
    simp only [Json.depthLimit] at shallow ⊢
    omega
  rw [ofText?, parses, Option.bind_some]
  exact ofTree?_toJson genuine fits

end Network

namespace Bake.Spelled

/-- A surface with a reference that is written as an array, a plain value that only resembles one, and a
reference with a member that is not known. -/
def tree : Tree := .object [
  (some "materialPath", .string (some "/M")),
  (some "nodes", .object [(some "/M/t", .object [
    (some "type", .string (some Surface.standard.nodeType)),
    (some "parameters", .object [
      (some "base", .array [.string (some "a.png"), .null]),
      (some "coat", .object [(some "asset", .number (some (.integer 1)))]),
      (some "emission", .object [(some "asset", .string (some "b.png")), (some "size", .null)])])])]),
  (some "terminals", .object [(some "surface", .object [(some "upstreamNode", .string (some "/M/t"))])])]

/-- The material that is read. -/
def network : Network where
  materialPath := "/M"
  nodes := Dict.ofList [("/M/t", ⟨Surface.standard.nodeType, Dict.ofList [
    ("base", .asset ⟨"a.png", none⟩),
    ("coat", .plain (.object [("asset", .number (.integer 1))])),
    ("emission", .asset ⟨"b.png", none⟩)], Dict.empty⟩)]
  terminals := Dict.ofList [("surface", ⟨"/M/t", ""⟩)]

/-- The run renames a reference, and what it leaves reads back. -/
theorem renamed_reads_back :
    let baked := network.bakeMaterial Shared.context Shared.compile Layered.registry () ""
    tree.NamesUnique ∧ Network.ofTree? 7 tree = some network ∧
    baked.report.transformed = true ∧
    baked.network.parameter? "/M/t" (adapterName "emission") = some (.asset ⟨"b.png", none⟩) ∧
    Network.ofJson? baked.network.toJson = some baked.network := by
  -- The text is read and baked by evaluation, and one bake is a run.
  have unique : tree.NamesUnique := by simp [tree]
  have read : Network.ofTree? 7 tree = some network := by cbv
  have run : network.BakesTo
      (network.bakeMaterial Shared.context Shared.compile Layered.registry () "").network :=
    ⟨Unit, Shared.context, Shared.compile, Layered.registry, (), "", rfl⟩
  exact ⟨unique, read, by cbv, by cbv, (Network.reads_back unique read (.single run)).1⟩

end Bake.Spelled

end ShadeBake
