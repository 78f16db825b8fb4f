import Mathlib
import ShadeBake.Proofs.Shader.Declarations

/-! Which variables of an emitted program bear one name. A node and an output make up a variable, and the text of the
variable joins a part for each by an underscore, which other characters than letters and digits turn into as well.
Two variables can therefore have one text, and what their parts look like where they do is said exactly. -/

namespace ShadeBake

/-- Two lists that a mark divides are equal when they are divided alike, or when one goes on past its mark with what
the other has between its own mark and another one. -/
theorem append_mark_eq_iff {α : Type} {mark : α} {front back front' back' : List α} :
    front ++ mark :: back = front' ++ mark :: back' ↔
      (front = front' ∧ back = back') ∨
      (∃ between, front' = front ++ mark :: between ∧ back = between ++ mark :: back') ∨
      ∃ between, front = front' ++ mark :: between ∧ back' = between ++ mark :: back := by
  constructor
  · intro same
    rcases List.append_eq_append_iff.1 same with ⟨more, longer, rest⟩ | ⟨more, longer, rest⟩
    -- The second front is the longer one, by nothing or by the mark of the first and more.
    · cases more with
      | nil =>
        simp only [List.nil_append, List.cons.injEq, true_and] at rest
        exact .inl ⟨by simpa using longer.symm, rest⟩
      | cons first between =>
        obtain ⟨rfl, tail⟩ := List.cons.inj rest
        exact .inr (.inl ⟨between, longer, tail⟩)
    · cases more with
      | nil =>
        simp only [List.nil_append, List.cons.injEq, true_and] at rest
        exact .inl ⟨by simpa using longer, rest.symm⟩
      | cons first between =>
        obtain ⟨rfl, tail⟩ := List.cons.inj rest
        exact .inr (.inr ⟨between, longer, tail⟩)
  -- Each of the three ways gives the same list.
  · rintro (⟨rfl, rfl⟩ | ⟨between, rfl, rfl⟩ | ⟨between, rfl, rfl⟩)
    · rfl
    · simp
    · simp

namespace Variable

/-- A variable runs into another one when the part of the other's node goes on past its own with an underscore and
what its output's part begins with. -/
def RunsInto (v w : Variable) : Prop :=
  ∃ between, part w.node.toList = part v.node.toList ++ '_' :: between ∧
    part v.output.toList = between ++ '_' :: part w.output.toList

/-- Two variables clash when their parts are the same, or when one runs into the other. -/
def Clashes (v w : Variable) : Prop :=
  (part v.node.toList = part w.node.toList ∧ part v.output.toList = part w.output.toList) ∨
    v.RunsInto w ∨ w.RunsInto v

/-- Two variables have one text exactly when they clash. -/
theorem text_eq_iff {v w : Variable} : v.text = w.text ↔ v.Clashes w := by
  -- The underscore between the two parts is the mark, and it may stand in either part.
  rw [text, text, String.ofList_inj, append_mark_eq_iff]
  rfl

example : (Variable.mk "mix" "fg_out").text = (Variable.mk "mix_fg" "out").text := by decide

/-- A name is an identifier when it consists of letters, digits and underscores and does not begin with a digit. -/
def IsIdentifier (name : String) : Prop :=
  (∀ c ∈ name.toList, c.isAlphanum = true ∨ c = '_') ∧ ∀ c ∈ name.toList.head?, c.isDigit = false

/-- A name is plain when it is an identifier without underscores. -/
def IsPlain (name : String) : Prop :=
  IsIdentifier name ∧ '_' ∉ name.toList

/-- An identifier is its own part of a variable. -/
theorem part_of_identifier {name : String} (identifier : IsIdentifier name) :
    part name.toList = name.toList := by
  obtain ⟨chars, start⟩ := identifier
  -- Underscores stay as well, as they turn into underscores.
  have same : (name.toList.map fun c => if c.isAlphanum then c else '_') = name.toList := by
    refine (List.map_congr_left fun c inside => ?_).trans (List.map_id _)
    rcases chars c inside with kept | rfl
    · rw [if_pos kept, id]
    · rfl
  unfold part
  rw [same]
  cases list : name.toList with
  | nil => rfl
  | cons first rest =>
    have letter : first.isDigit = false := start first (by rw [list]; rfl)
    simp [letter]

/-- Variables of nodes whose names are identifiers, for outputs whose names are plain, clash with none but
themselves. -/
theorem Clashes.eq {v w : Variable} (clashes : v.Clashes w) (node : IsIdentifier v.node)
    (node' : IsIdentifier w.node) (output : IsPlain v.output) (output' : IsPlain w.output) : v = w := by
  unfold Clashes RunsInto at clashes
  rw [part_of_identifier node, part_of_identifier node', part_of_identifier output.1,
    part_of_identifier output'.1] at clashes
  rcases clashes with ⟨nodes, outputs⟩ | ⟨between, _, runs⟩ | ⟨between, _, runs⟩
  · obtain ⟨name, port⟩ := v
    obtain ⟨name', port'⟩ := w
    rw [Variable.mk.injEq]
    exact ⟨String.toList_inj.1 nodes, String.toList_inj.1 outputs⟩
  -- A variable that runs into another one has an underscore in its output.
  · exact absurd (runs ▸ by simp) output.2
  · exact absurd (runs ▸ by simp) output'.2

end Variable

namespace Document

/-- Outputs that have names of their own in a signature have names of their own at the node. -/
theorem Node.names_outputPlugs_nodup {node : Node}
    (distinct : ∀ signature, node.signature = some signature → (signature.outputs.map (·.name)).Nodup) :
    (node.outputPlugs.map (·.name)).Nodup := by
  -- A node that declares no outputs has one of its own.
  have single : ([node.ownOutput].map (·.name)).Nodup := List.nodup_singleton _
  unfold outputPlugs
  cases declared : node.signature with
  | none => exact single
  | some signature =>
    dsimp only
    split
    · exact single
    · exact distinct signature declared

/-- An order of evaluation lists no name twice, whatever the root is. -/
theorem Graph.names_evaluationOrder_nodup {graph : Graph} {root : Node} {order : List Node}
    (evaluates : graph.evaluationOrder root = .ok order) : (order.map (·.name)).Nodup := by
  obtain ⟨_, _, work⟩ := ok_of_bind evaluates
  obtain ⟨computed, sources, done⟩ := ok_of_bind work
  simp only [pure, Except.pure, Except.ok.injEq] at done
  subst done
  obtain ⟨ordered, ⟨more, extends', feeds⟩, _⟩ := compute_ok sources .nil
  rw [List.nil_append] at extends'
  subst extends'
  -- The root is on the path, so it is not computed for its own sources.
  rw [List.map_append, List.nodup_append]
  refine ⟨ordered.nodup, List.nodup_singleton _, fun name inside last isLast same => ?_⟩
  obtain ⟨node, isNode, rfl⟩ := List.mem_map.1 inside
  obtain rfl := List.mem_singleton.1 isLast
  exact (feeds node isNode).1 (same ▸ List.mem_singleton_self _)

end Document

namespace Shader

open Document (Graph Node)

variable {options : EmitOptions} {graph : Graph}

/-- Blocks that compute nodes declare the variables of the nodes' outputs in order. -/
theorem declared_of_computes {order : List Node} {blocks : List Block}
    (computes : List.Forall₂ (Computes options graph) order blocks) :
    declared (blocks.flatMap Block.lines) =
      order.flatMap fun node => node.outputPlugs.map fun plug => node.outputVariable plug.name := by
  induction computes with
  | nil => rfl
  | cons one _ ih =>
    -- The call behind the declarations of a block declares nothing.
    rw [List.flatMap_cons, List.flatMap_cons, declared_append, ih, Block.lines, declared_append,
      declared_of_declares one.declares]
    simp [declared, Call.line, Statement.declared?]

/-- Nodes of distinct names, each with outputs of distinct names, have distinct variables. -/
theorem variables_nodup {order : List Node} (names : (order.map (·.name)).Nodup)
    (outputs : ∀ node ∈ order, (node.outputPlugs.map (·.name)).Nodup) :
    (order.flatMap fun node => node.outputPlugs.map fun plug => node.outputVariable plug.name).Nodup := by
  rw [List.nodup_flatMap]
  refine ⟨fun node inside => ?_, (List.pairwise_map.1 names).imp fun apart => ?_⟩
  -- Two outputs of one node differ in their names, and those of two nodes in the names of the nodes.
  · have own : (node.outputPlugs.map fun plug => node.outputVariable plug.name) =
        (node.outputPlugs.map (·.name)).map node.outputVariable := by
      rw [List.map_map]
      rfl
    rw [own]
    exact (outputs node inside).map fun output output' same => (Variable.mk.inj same).2
  · rintro v one other
    obtain ⟨plug, _, rfl⟩ := List.mem_map.1 one
    obtain ⟨plug', _, same⟩ := List.mem_map.1 other
    exact apart (Variable.mk.inj same).1.symm

/-- Which variables that an emitted program declares have one text. The program declares a variable for each output
of each node that is evaluated, in their order and each once, where the outputs of a node have names of their own.
The texts are distinct exactly if no two of the variables clash, and so whenever the names of the nodes are
identifiers and those of the outputs plain. -/
theorem emit_texts_nodup_iff {root : Node} {name : String} {program : Program}
    (distinct : ∀ node ∈ root :: graph.nodes, ∀ signature, node.signature = some signature →
      (signature.outputs.map (·.name)).Nodup)
    (emits : emit options name graph root = .ok program) :
    (∃ order, graph.evaluationOrder root = .ok order ∧ declared program.body =
      order.flatMap fun node => node.outputPlugs.map fun plug => node.outputVariable plug.name) ∧
    (declared program.body).Nodup ∧
    (((declared program.body).map Variable.text).Nodup ↔
      ∀ v ∈ declared program.body, ∀ w ∈ declared program.body, v ≠ w → ¬v.Clashes w) ∧
    ((∀ v ∈ declared program.body, Variable.IsIdentifier v.node ∧ Variable.IsPlain v.output) →
      ((declared program.body).map Variable.text).Nodup) := by
  obtain ⟨order, blocks, evaluates, computes, body, _⟩ := emit_blocks emits
  have declares : declared program.body =
      order.flatMap fun node => node.outputPlugs.map fun plug => node.outputVariable plug.name := by
    -- Setting the result declares nothing.
    rw [body, declared_append, declared_of_computes computes]
    exact List.append_nil _
  -- Variables of different nodes differ in the node, and those of one node in the output.
  have nodup : (declared program.body).Nodup := by
    rw [declares]
    refine variables_nodup (Graph.names_evaluationOrder_nodup evaluates) fun node listed =>
      Node.names_outputPlugs_nodup (distinct node ?_)
    rcases Graph.mem_of_evaluationOrder evaluates listed with inside | rfl
    · exact List.mem_cons_of_mem _ inside
    · exact List.mem_cons_self
  have texts : ((declared program.body).map Variable.text).Nodup ↔
      ∀ v ∈ declared program.body, ∀ w ∈ declared program.body, v ≠ w → ¬v.Clashes w := by
    rw [List.nodup_map_iff_inj_on nodup]
    simp only [Variable.text_eq_iff]
    exact forall₄_congr fun v _ w _ => not_imp_not.symm
  refine ⟨⟨order, evaluates, declares⟩, nodup, texts, fun named => texts.2 fun v inside w inside' apart clashes => ?_⟩
  exact apart (clashes.eq (named v inside).1 (named w inside').1 (named v inside).2 (named w inside').2)

end Shader

namespace Shader.Summed

open Document (Graph Node)

/-- A constant of a name. -/
def constant (name : String) : Node where
  name := name
  category := "constant"
  type := "float"
  definition := some "ND_constant_float"
  signature := some { inputs := [], outputs := [⟨"out", "float", none⟩] }

/-- The sum of two constants whose names differ in a character that is neither a letter nor a digit. -/
def sum : Node where
  name := "sum"
  category := "add"
  type := "float"
  definition := some "ND_add_float"
  inputs := [{ name := "in1", type := "float", node := some "c.1" },
    { name := "in2", type := "float", node := some "c_1" }]
  signature := some {
    inputs := [⟨"in1", "float", none⟩, ⟨"in2", "float", none⟩]
    outputs := [⟨"out", "float", none⟩] }

/-- The graph of the three nodes. -/
def graph : Graph where
  name := "NG"
  nodes := [sum, constant "c.1", constant "c_1"]

/-- The program for the sum. -/
def program : Program where
  name := "sumShader"
  node := "sum"
  graph := "NG"
  category := "add"
  searchPaths := []
  type := .float
  body := [
    .declare .float ⟨"c.1", "out"⟩,
    .call "constant_float" [] [⟨"c.1", "out"⟩],
    .declare .float ⟨"c_1", "out"⟩,
    .call "constant_float" [] [⟨"c_1", "out"⟩],
    .declare .float ⟨"sum", "out"⟩,
    .call "add_float" [.read ⟨"c.1", "out"⟩, .read ⟨"c_1", "out"⟩] [⟨"sum", "out"⟩],
    .result ⟨"sum", "out"⟩]

/-- The nodes have names of their own, and each has one output. The two constants have one variable all the same. -/
theorem constants_collide :
    (graph.nodes.map (·.name)).Nodup ∧
    (∀ node ∈ sum :: graph.nodes, ∀ signature, node.signature = some signature →
      (signature.outputs.map (·.name)).Nodup) ∧
    emit {} "sumShader" graph sum = .ok program ∧
    ¬((declared program.body).map Variable.text).Nodup := by
  have distinct : ∀ node ∈ sum :: graph.nodes, ∀ signature, node.signature = some signature →
      (signature.outputs.map (·.name)).Nodup := by
    intro node inside signature declares
    -- Every node declares one output of the default name.
    have only : ∀ node ∈ sum :: graph.nodes,
        node.signature.all fun signature => signature.outputs.map (·.name) = ["out"] := by decide
    have outputs := only node inside
    rw [declares, Option.all_some, decide_eq_true_eq] at outputs
    rw [outputs]
    exact List.nodup_singleton _
  have emits : emit {} "sumShader" graph sum = .ok program := by cbv
  obtain ⟨_, _, texts, _⟩ := emit_texts_nodup_iff distinct emits
  -- The dot becomes an underscore, so the parts are the same.
  have clash : (Variable.mk "c.1" "out").Clashes ⟨"c_1", "out"⟩ := .inl ⟨by decide, rfl⟩
  exact ⟨by decide, distinct, emits, fun nodup =>
    texts.1 nodup ⟨"c.1", "out"⟩ (by decide) ⟨"c_1", "out"⟩ (by decide) (by decide) clash⟩

end Shader.Summed

end ShadeBake
