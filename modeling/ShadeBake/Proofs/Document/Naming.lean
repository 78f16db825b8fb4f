import Mathlib.Data.List.Nodup
import Mathlib.Data.List.Perm.Subperm
import ShadeBake.Proofs.Document.Build

/-! A document gives each graph a name of its own, which none of the nodes outside the graphs has. -/

namespace ShadeBake

/-- Different numbers have different digits. -/
theorem Decimal.digitsOf_injective {m n : Nat} (same : digitsOf m = digitsOf n) : m = n := by
  unfold digitsOf at same
  -- A number is read back from its digits.
  have read := congrArg (Nat.ofDigitChars 10 · 0) same
  simpa only [Nat.ofDigitChars_toDigits (by omega : 1 < 10) (Nat.le_refl 10)] using read

namespace Document

/-- No name is tried twice. -/
theorem candidates_nodup (stem : List Char) (count : Nat) : (candidates stem count).Nodup := by
  -- The candidates differ in the digits at their ends, and those of different numbers differ.
  unfold candidates
  refine List.nodup_range.map fun m n same => ?_
  have digits := List.append_cancel_left (String.ofList_inj.1 same)
  have numbers := Decimal.digitsOf_injective digits
  omega

/-- Of more candidates than there are names, one is free. -/
theorem exists_candidate (stem : List Char) (taken : List String) :
    ∃ name ∈ candidates stem taken.length, name ∉ taken := by
  refine Classical.byContradiction fun none => ?_
  simp only [not_exists, not_and, not_not] at none
  -- All of them being taken, there would be no more of them than names.
  have few := (List.subperm_of_subset (candidates_nodup stem taken.length) none).length_le
  simp only [candidates, List.length_map, List.length_range] at few
  omega

/-- A fresh name is that of no child. -/
theorem freshName_not_mem (document : Document) (text : String) :
    document.freshName text ∉ document.childNames := by
  unfold freshName
  simp only
  split
  · obtain ⟨name, tried, free⟩ := exists_candidate (nameStem (nameBase text.toList)) document.childNames
    -- The search ends at a candidate, and that is free.
    cases found : (candidates (nameStem (nameBase text.toList)) document.childNames.length).find?
        (· ∉ document.childNames) with
    | none => exact absurd (decide_eq_true free) (List.find?_eq_none.1 found name tried)
    | some fresh => simpa using List.find?_some found
  · rename_i free
    exact free

/-- A document is well named when no two graphs share a name and no node outside them has one of theirs. -/
def WellNamed (document : Document) : Prop :=
  (document.graphs.map (·.name)).Nodup ∧
    ∀ graph ∈ document.graphs, graph.name ∉ document.nodes.map (·.name)

/-- A new graph leaves a document well named. -/
theorem WellNamed.addGraph {document : Document} (named : document.WellNamed) (name : String) :
    (document.addGraph name).WellNamed := by
  have fresh := freshName_not_mem document name
  simp only [childNames, List.mem_append, not_or] at fresh
  -- The fresh name is neither that of a graph nor that of a node.
  refine ⟨?_, fun graph inside => ?_⟩
  · simp only [Document.addGraph, List.map_append, List.map_cons, List.map_nil]
    exact List.nodup_append.2 ⟨named.1, by simp, fun old inside new isNew same =>
      fresh.2 (List.mem_singleton.1 isNew ▸ same ▸ inside)⟩
  · rcases List.mem_append.1 inside with old | new
    · exact named.2 graph old
    · rw [List.mem_singleton.1 new]
      exact fresh.1

/-- A change to a graph that keeps its name leaves a document well named. -/
theorem WellNamed.modifyGraph {document : Document} (named : document.WellNamed) (position : Nat)
    {change : Graph → Graph} (keeps : ∀ graph, (change graph).name = graph.name) :
    (document.modifyGraph position change).WellNamed := by
  -- All names stay, so distinctness does and no graph gets the name of a node.
  have names : (document.modifyGraph position change).graphs.map (·.name) =
      document.graphs.map (·.name) := by
    have same := map_modify Graph.name change id keeps document.graphs position
    rwa [List.modify_id] at same
  refine ⟨names ▸ named.1, fun graph inside => ?_⟩
  have listed := List.mem_map_of_mem (f := (·.name)) inside
  rw [names] at listed
  obtain ⟨old, there, same⟩ := List.mem_map.1 listed
  exact same ▸ named.2 old there

end Document

namespace BuiltDocument

variable {vocabulary : Vocabulary} {network : Network} {material : String} {built : BuiltDocument}

/-- A graph for a key leaves a built document well named. -/
theorem wellNamed_withGraph (named : built.document.WellNamed) (key : String) :
    (built.withGraph key).document.WellNamed := by
  -- A graph is added under a fresh name, or was there.
  unfold withGraph
  split
  · exact named
  · exact named.addGraph key

/-- Nodes in graphs leave a built document well named. -/
theorem wellNamed_addNodes (named : built.document.WellNamed) (paths : List String) :
    (paths.foldl (addNode vocabulary network material) built).document.WellNamed := by
  induction paths generalizing built with
  | nil => exact named
  | cons path rest ih =>
    -- The node goes into a graph that is there or is made for it.
    have opened := wellNamed_withGraph named (Document.graphKey material path)
    exact ih (opened.modifyGraph _ fun _ => rfl)

end BuiltDocument

namespace DocumentBuilder

/-- An output leaves a graph its name. -/
theorem name_withOutput (graph : Document.Graph) (output : Document.GraphOutput) :
    (withOutput graph output).name = graph.name := by
  -- An output is added to the graph or was there.
  unfold withOutput
  split
  · rfl
  · rfl

/-- What feeds inputs of a terminal leaves a document well named. -/
theorem wellNamed_addConnections (vocabulary : Vocabulary) (network : Network) (terminal : String)
    (builder : DocumentBuilder) (named : builder.built.document.WellNamed) (names : List String) :
    (names.foldl (addConnection vocabulary network terminal) builder).built.document.WellNamed := by
  induction names generalizing builder with
  | nil => exact named
  | cons name rest ih =>
    refine ih _ ?_
    unfold addConnection
    -- Only an existing source adds nodes, and what it adds an output to is one of their graphs.
    split
    · exact named
    · split
      · exact (BuiltDocument.wellNamed_addNodes named _).modifyGraph _ fun graph =>
          name_withOutput graph _
      · exact named

end DocumentBuilder

namespace Document

/-- Inputs leave a node its name. -/
theorem Node.name_foldl_putInput (node : Node) (inputs : List Input) :
    (inputs.foldl putInput node).name = node.name := by
  -- Each input is put in on its own, which leaves the name.
  induction inputs generalizing node with
  | nil => rfl
  | cons input rest ih => exact ih _

/-- A built document is well named. -/
theorem build_wellNamed (vocabulary : Vocabulary) (network : Network) (terminal : String)
    (names : List String) : (build vocabulary network terminal names).document.WellNamed := by
  -- The two nodes outside the graphs come first, so there is no graph to share a name with.
  have bare : ((({} : Document).addNode (terminalNode vocabulary network terminal)).addNode
      (materialNode network)).WellNamed := ⟨List.nodup_nil, fun graph inside => nomatch inside⟩
  have named := DocumentBuilder.wellNamed_addConnections vocabulary network terminal
    { built := { document := ((({} : Document).addNode (terminalNode vocabulary network terminal)).addNode
      (materialNode network)) } } bare names
  -- The node for the terminal gets its inputs last, and keeps its name.
  have kept := fun pick inputs => map_modifyFirst pick (fun node => List.foldl Node.putInput node inputs)
    Node.name fun node => Node.name_foldl_putInput node inputs
  refine ⟨named.1, fun graph inside => ?_⟩
  have listed := named.2 graph inside
  rwa [← kept] at listed

end Document

end ShadeBake
