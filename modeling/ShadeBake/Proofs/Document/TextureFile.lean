import ShadeBake.Texture

/-! What stands for the file of a texture node that is routed: the path that its reference leads to, or the locator by
which the plugin reads that path, with a wrap mode for each of the two coordinates. -/

namespace ShadeBake

namespace Texture

open Document (Input Node)

/-- The path that a reference leads to: the one that it was resolved to before, or where that is missing or empty, what
the resolver makes of the authored text. -/
inductive Leads (resolver : Resolver) (reference : AssetReference) : Path → Prop
  | earlier {path : Path} (resolved : reference.resolved = some path) (nonempty : path ≠ "") :
      Leads resolver reference path
  | now (unresolved : reference.resolved = none ∨ reference.resolved = some "") :
      Leads resolver reference (resolver.resolve reference.authored)

/-- A path is native when the resolver finds no extension in it or the native one. -/
def Native (context : TextureContext) (path : Path) : Prop :=
  context.resolver.extension path = "" ∨ context.resolver.extension path = context.nativeExtension

/-- The plugin's word for how a texture goes on along the coordinate that a parameter of its node speaks about. -/
inductive Continues (network : Network) (node parameter : String) : String → Prop
  | black (constant : network.parameter? node parameter = some (.plain (.string "constant"))) :
      Continues network node parameter "black"
  | clamp (clamp : network.parameter? node parameter = some (.plain (.string "clamp"))) :
      Continues network node parameter "clamp"
  -- Whatever else is authored, or nothing, repeats the texture.
  | again (notConstant : network.parameter? node parameter ≠ some (.plain (.string "constant")))
      (notClamp : network.parameter? node parameter ≠ some (.plain (.string "clamp"))) :
      Continues network node parameter "repeat"

/-- The input for the file of a node, with a text in it. What its own input reads stays. -/
def fileInput (node : Node) (text : String) : Input :=
  { (node.input? "file").getD { name := "file", type := "filename" } with
    value := some (.string text), type := "filename" }

/-- The input that a node reads its coordinates by: its own one, or else one for the node of its name with the ending for
readers. -/
def sourceInput (node : Node) : Input :=
  (node.input? "texcoord").getD { name := "texcoord", type := "vector2", node := some (node.name ++ "__texcoord") }

variable {context : TextureContext} {network : Network} {reference : AssetReference} {path : Path}
  {node parameter word : String}

/-- A reference leads to the path that it is resolved to, and to no other. -/
theorem leads_iff : Leads context.resolver reference path ↔ path = resolved context reference := by
  obtain ⟨authored, earlier⟩ := reference
  -- An earlier path counts unless it is empty.
  constructor
  · intro leads
    cases leads with
    | earlier isPath nonempty => simp_all [resolved]
    | now unresolved => rcases unresolved with none | empty <;> simp_all [resolved]
  -- In the other direction the cases are those of the earlier path.
  · intro same
    subst same
    cases earlier with
    | none => exact .now (.inl rfl)
    | some path =>
      by_cases empty : path = ""
      · subst empty
        exact .now (.inr rfl)
      · have same : resolved context ⟨authored, some path⟩ = path := by simp [resolved, empty]
        rw [same]
        exact .earlier rfl empty

/-- Native paths are those that are told to be. -/
theorem native_iff : Native context path ↔ isNative context path = true := by
  -- Both sides ask for no extension or for the renderer's own.
  simp [Native, isNative]

/-- Coordinates are read from the variable that a node type hints at, or else from the default one. -/
theorem primvar_fst (context : TextureContext) (path type : String) :
    (primvar context path type).1 = ((context.registry.definition? type).bind ShaderEntry.primvarHint?).getD "st" := by
  -- The hint of the definition is taken, and the common name where there is none.
  unfold primvar
  split
  · rename_i hinted
    rw [hinted, Option.getD_some]
  · rename_i unhinted
    rw [unhinted, Option.getD_none]
    rfl

/-- Two address modes have words of their own, and all others share one. -/
theorem name_ofAddressMode (mode : String) :
    (mode = "constant" ∧ (WrapMode.ofAddressMode mode).name = "black") ∨
      (mode = "clamp" ∧ (WrapMode.ofAddressMode mode).name = "clamp") ∨
      (mode ≠ "constant" ∧ mode ≠ "clamp" ∧ (WrapMode.ofAddressMode mode).name = "repeat") := by
  -- Two modes have names of their own, and all others repeat.
  unfold WrapMode.ofAddressMode
  split
  · exact .inl ⟨rfl, rfl⟩
  · exact .inr (.inl ⟨rfl, rfl⟩)
  · rename_i notConstant notClamp
    exact .inr (.inr ⟨notConstant, notClamp, rfl⟩)

/-- The name of the wrap mode for a parameter is the plugin's word for it. -/
theorem continues_ofParameter (network : Network) (node parameter : String) :
    Continues network node parameter (WrapMode.ofParameter network node parameter).1.name := by
  unfold WrapMode.ofParameter
  cases authored : (network.parameter? node parameter).bind Parameter.string? with
  -- Without a text the texture repeats, and neither of the two texts is authored then.
  | none =>
    refine .again ?_ ?_
    · intro constant
      simp [constant, Parameter.string?] at authored
    · intro clamp
      simp [clamp, Parameter.string?] at authored
  | some mode =>
    -- A text is read only from a plain parameter that holds one.
    have text : network.parameter? node parameter = some (.plain (.string mode)) := by
      obtain ⟨value, held, isText⟩ := Option.bind_eq_some_iff.1 authored
      rw [held]
      unfold Parameter.string? at isText
      split at isText
      · rw [Option.some.inj isText]
      · cases isText
    rcases name_ofAddressMode mode with ⟨rfl, named⟩ | ⟨rfl, named⟩ | ⟨notConstant, notClamp, named⟩
    · exact named ▸ .black text
    · exact named ▸ .clamp text
    · exact named ▸ .again (by simp [text, notConstant]) (by simp [text, notClamp])

/-- There is one word for a parameter. -/
theorem Continues.unique {other : String} (continues : Continues network node parameter word)
    (again : Continues network node parameter other) : word = other := by
  -- No parameter holds two texts, or one of the two and something else.
  cases continues with
  | black constant => cases again <;> simp_all
  | clamp clamp => cases again <;> simp_all
  | again notConstant notClamp => cases again <;> simp_all

end Texture

end ShadeBake
