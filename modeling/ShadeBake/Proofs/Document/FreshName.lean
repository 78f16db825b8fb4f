import Mathlib.Data.List.DropRight
import ShadeBake.Proofs.Binary.Numeral
import ShadeBake.Proofs.Document.Naming

/-! The names that a document gives its children: a fresh name is an identifier that no child has, found by
counting up past the taken ones, and a built document has no name twice. -/

namespace ShadeBake

namespace Document

/-- A text can be the name of a child when it consists of ASCII letters, digits and underscores and begins with
one that is no digit. -/
def IsChildName (text : List Char) : Prop :=
  -- There is a first character, so that a name is not empty.
  (∀ c ∈ text, c.isAlphanum = true ∨ c = '_') ∧ ∃ first ∈ text.head?, first.isDigit = false

/-- The name that is tried for a number: the digits at the end of the base give way to those of the number. -/
def numbered (base : List Char) (n : Nat) : String :=
  String.ofList (nameStem base ++ Decimal.digitsOf n)

/-- The characters of names are the letters, the digits and the underscore. -/
theorem isNameCharacter_iff {c : Char} : isNameCharacter c = true ↔ c.isAlphanum = true ∨ c = '_' := by
  -- The code tests for the one and then for the other.
  simp [isNameCharacter]

/-- What a text is made into can be the name of a child. -/
theorem isChildName_nameBase (text : List Char) : IsChildName (nameBase text) := by
  -- Every character becomes one that a name may have.
  have chars : ∀ c ∈ text.map (fun c => if isNameCharacter c then c else '_'),
      c.isAlphanum = true ∨ c = '_' := by
    intro c inside
    obtain ⟨old, _, rfl⟩ := List.mem_map.1 inside
    by_cases kept : isNameCharacter old = true
    · rw [if_pos kept]
      exact isNameCharacter_iff.1 kept
    · rw [if_neg kept]
      exact .inr rfl
  unfold nameBase
  dsimp only
  split
  · exact ⟨by simp, '_', rfl, by decide⟩
  · rename_i first rest made
    rw [made] at chars
    by_cases digit : first.isDigit = true
    -- The underscore that is put in front of a digit is no digit.
    · rw [if_pos digit, made]
      refine ⟨fun c inside => ?_, '_', rfl, by decide⟩
      rcases List.mem_cons.1 inside with rfl | later
      · exact .inr rfl
      · exact chars c later
    · rw [if_neg digit, made]
      exact ⟨chars, first, rfl, by simpa using digit⟩

/-- A text that can be a name is made into itself. -/
theorem nameBase_of_isChildName {text : List Char} (valid : IsChildName text) : nameBase text = text := by
  obtain ⟨chars, first, begins, letter⟩ := valid
  have same : (text.map fun c => if isNameCharacter c then c else '_') = text := by
    refine (List.map_congr_left fun c inside => ?_).trans (List.map_id _)
    rw [if_pos (isNameCharacter_iff.2 (chars c inside)), id]
  unfold nameBase
  rw [same]
  -- There is a first character, and it stands where no underscore is put in front.
  cases text with
  | nil => simp at begins
  | cons head rest =>
    obtain rfl : head = first := by simpa using begins
    simp [letter]

/-- A name with a number in the stead of the digits at its end can still be the name of a child. -/
theorem IsChildName.numbered {base : List Char} (valid : IsChildName base) (n : Nat) :
    IsChildName (numbered base n).toList := by
  obtain ⟨chars, first, begins, letter⟩ := valid
  have stem : nameStem base <+: base := List.rdropWhile_prefix Char.isDigit base
  unfold Document.numbered
  rw [String.toList_ofList]
  refine ⟨fun c inside => ?_, first, ?_, letter⟩
  -- The characters are those of the stem and digits.
  · rcases List.mem_append.1 inside with kept | new
    · exact chars c (stem.subset kept)
    · exact .inl (by simp [Char.isAlphanum, Decimal.isDigit_of_mem_digitsOf new])
  -- The first character is no digit, so it is not among those that are cut off.
  · have inside : first ∈ base := List.mem_of_mem_head? begins
    have nonempty : nameStem base ≠ [] := fun empty => by
      have digit := List.rdropWhile_eq_nil_iff.1 empty first inside
      simp [letter] at digit
    obtain ⟨rest, whole⟩ := stem
    rw [← whole, List.head?_append_of_ne_nil _ nonempty] at begins
    rwa [List.head?_append_of_ne_nil _ nonempty]

/-- A fresh name is the base if that is free, and else the base with the first number from two on for which
it is free. -/
theorem freshName_eq (document : Document) (text : String) :
    (document.freshName text = String.ofList (nameBase text.toList) ∧
      String.ofList (nameBase text.toList) ∉ document.childNames) ∨
    String.ofList (nameBase text.toList) ∈ document.childNames ∧
      ∃ n, 2 ≤ n ∧ n ≤ document.childNames.length + 2 ∧
        document.freshName text = numbered (nameBase text.toList) n ∧
        ∀ m, 2 ≤ m → m < n → numbered (nameBase text.toList) m ∈ document.childNames := by
  -- The base is free, or the first free one of the counted names is taken.
  generalize based : nameBase text.toList = base
  unfold freshName
  simp only [based]
  by_cases taken : String.ofList base ∈ document.childNames
  · refine .inr ⟨taken, ?_⟩
    rw [if_pos taken]
    -- One of the candidates is free, so the search ends at the first of these.
    obtain ⟨name, tried, free⟩ := exists_candidate (nameStem base) document.childNames
    cases found : (candidates (nameStem base) document.childNames.length).find? (· ∉ document.childNames) with
    | none => exact absurd (decide_eq_true free) (List.find?_eq_none.1 found name tried)
    | some fresh =>
      unfold candidates at found
      rw [List.find?_map] at found
      obtain ⟨k, search, rfl⟩ := Option.map_eq_some_iff.1 found
      obtain ⟨_, bound, before⟩ := List.find?_range_eq_some.1 search
      have small := List.mem_range.1 bound
      refine ⟨k + 2, by omega, by omega, rfl, fun m least below => ?_⟩
      have passed := before (m - 2) (by omega)
      have shifted : m - 2 + 2 = m := by omega
      simpa [numbered, shifted] using passed
  · rw [if_neg taken]
    exact .inl ⟨rfl, taken⟩

end Document

namespace BuiltDocument

/-- Nodes in graphs leave the nodes outside them. -/
theorem nodes_addNodes (vocabulary : Vocabulary) (network : Network) (material : String) (built : BuiltDocument)
    (paths : List String) :
    (paths.foldl (addNode vocabulary network material) built).document.nodes = built.document.nodes := by
  induction paths generalizing built with
  | nil => rfl
  | cons path rest ih =>
    -- Whether a graph is made for the node or not, it goes into a graph.
    have opened : (built.withGraph (Document.graphKey material path)).document.nodes = built.document.nodes := by
      unfold withGraph
      split
      · rfl
      · rfl
    exact (ih _).trans opened

end BuiltDocument

namespace DocumentBuilder

/-- What feeds inputs of a terminal leaves the nodes outside the graphs. -/
theorem nodes_addConnections (vocabulary : Vocabulary) (network : Network) (terminal : String)
    (builder : DocumentBuilder) (names : List String) :
    (names.foldl (addConnection vocabulary network terminal) builder).built.document.nodes =
      builder.built.document.nodes := by
  -- Connections add to the graphs, and the nodes outside are left alone.
  induction names generalizing builder with
  | nil => rfl
  | cons name rest ih =>
    refine (ih _).trans ?_
    unfold addConnection
    split
    · rfl
    · split
      · exact BuiltDocument.nodes_addNodes ..
      · rfl

end DocumentBuilder

namespace Document

/-- The surface shader of a material has another name than the material. -/
theorem shaderName_ne (material : String) : NodePath.shaderName material ≠ material := by
  -- The name of the shader is longer.
  intro same
  have lengths := congrArg String.length same
  have longer : "SR_".length ≠ 0 := by decide
  simp only [NodePath.shaderName, String.length_append] at lengths
  omega

/-- The node for a terminal has the name of the material's surface shader. -/
theorem name_terminalNode (vocabulary : Vocabulary) (network : Network) (terminal : String) :
    (terminalNode vocabulary network terminal).name =
      NodePath.shaderName (NodePath.materialName network.materialPath) := by
  -- Parameters are inputs of the node and do not touch its name.
  unfold terminalNode
  dsimp only
  rw [withParameters_eq _ network terminal _ fun _ _ => List.not_mem_nil]

/-- The nodes outside the graphs of a built document are those of the terminal and of the material. -/
theorem names_nodes_build (vocabulary : Vocabulary) (network : Network) (terminal : String)
    (names : List String) :
    (build vocabulary network terminal names).document.nodes.map (·.name) =
      [NodePath.shaderName (NodePath.materialName network.materialPath),
        NodePath.materialName network.materialPath] := by
  -- The terminal's node gets its inputs last, and keeps its name.
  have kept := fun pick inputs => map_modifyFirst pick (fun node => List.foldl Node.putInput node inputs)
    Node.name fun node => Node.name_foldl_putInput node inputs
  have apart := shaderName_ne (NodePath.materialName network.materialPath)
  unfold build
  simp only [kept, DocumentBuilder.nodes_addConnections]
  -- The material does not displace the terminal's node.
  simp [addNode, putNode, name_terminalNode, materialNode, apart]

/-- A fresh name can be the name of a child and is that of none, and it is the text itself exactly where that is
so of the text; where it is not the base, counting ends at the first number that is free. Of the children of a
built document, which are the terminal's node, the material's and the graphs, no two have one name. -/
theorem freshName_valid :
    (∀ (document : Document) (text : String),
      let fresh := document.freshName text
      let base := nameBase text.toList
      IsChildName fresh.toList ∧ fresh ∉ document.childNames ∧
      (fresh = text ↔ IsChildName text.toList ∧ text ∉ document.childNames) ∧
      (fresh = String.ofList base ∨ ∃ n, 2 ≤ n ∧ n ≤ document.childNames.length + 2 ∧ fresh = numbered base n ∧
        String.ofList base ∈ document.childNames ∧
        ∀ m, 2 ≤ m → m < n → numbered base m ∈ document.childNames)) ∧
    ∀ (vocabulary : Vocabulary) (network : Network) (terminal : String) (names : List String),
      let document := (build vocabulary network terminal names).document
      let material := NodePath.materialName network.materialPath
      document.nodes.map (·.name) = [NodePath.shaderName material, material] ∧
      (document.nodes.map (·.name) ++ document.graphs.map (·.name)).Nodup := by
  refine ⟨fun document text => ?_, fun vocabulary network terminal names => ?_⟩
  · intro fresh base
    have free : fresh ∉ document.childNames := freshName_not_mem document text
    have made : IsChildName base := isChildName_nameBase text.toList
    have valid : IsChildName fresh.toList := by
      -- The name is the base or the base with a number, and both are valid.
      rcases freshName_eq document text with ⟨isBase, _⟩ | ⟨_, n, _, _, counted, _⟩
      · show IsChildName (document.freshName text).toList
        rw [isBase, String.toList_ofList]
        exact made
      · show IsChildName (document.freshName text).toList
        rw [counted]
        exact made.numbered n
    refine ⟨valid, free, ⟨fun same => same ▸ ⟨valid, free⟩, fun ⟨own, unused⟩ => ?_⟩, ?_⟩
    -- A text that can be a name is its own base, and as that is free it is not counted for.
    · have itself : String.ofList base = text := by
        rw [show base = text.toList from nameBase_of_isChildName own, String.ofList_toList]
      rcases freshName_eq document text with ⟨isBase, _⟩ | ⟨taken, _⟩
      · exact isBase.trans itself
      · exact absurd (itself ▸ taken) unused
    · rcases freshName_eq document text with ⟨isBase, _⟩ | ⟨taken, n, least, bound, counted, before⟩
      · exact .inl isBase
      · exact .inr ⟨n, least, bound, counted, taken, before⟩
  · intro document material
    have outside : document.nodes.map (·.name) = [NodePath.shaderName material, material] :=
      names_nodes_build vocabulary network terminal names
    obtain ⟨distinct, apart⟩ := build_wellNamed vocabulary network terminal names
    refine ⟨outside, List.nodup_append.2 ⟨?_, distinct, fun name isNode other isGraph same => ?_⟩⟩
    · rw [outside]
      simp [shaderName_ne]
    · obtain ⟨graph, inside, rfl⟩ := List.mem_map.1 isGraph
      exact apart graph inside (same ▸ isNode)

-- The digits at the end of a taken name are dropped before counting.
example : ({ graphs := [{ name := "NG1" }, { name := "NG2" }] } : Document).freshName "NG1" = "NG3" := by cbv

end Document

end ShadeBake
