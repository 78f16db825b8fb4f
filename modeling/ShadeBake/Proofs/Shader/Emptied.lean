import ShadeBake.Proofs.Shader.Locality

/-! Graphs and programs with the contents of strings taken out: an emptied graph has the emptied program, if it has
any. Names, types and connections alone decide on the rest. -/

namespace ShadeBake

namespace Literal

/-- A literal with the contents of a string taken out. -/
def emptied : Literal → Literal
  | .string _ => .string ""
  | other => other

/-- The value type of a literal does not depend on the contents of a string. -/
@[simp] theorem valueType_emptied (value : Literal) : value.emptied.valueType = value.valueType := by
  -- Each kind of literal stays of its kind.
  cases value <;> rfl

end Literal

namespace Document

/-- An input whose literal has the contents of a string taken out. -/
def Input.emptied (input : Input) : Input :=
  { input with value := input.value.map Literal.emptied }

/-- A plug whose default has the contents of a string taken out. -/
def Plug.emptied (plug : Plug) : Plug :=
  { plug with default := plug.default.map Literal.emptied }

/-- A signature with the contents of all strings in its defaults taken out. -/
def Signature.emptied (signature : Signature) : Signature where
  inputs := signature.inputs.map Plug.emptied
  outputs := signature.outputs.map Plug.emptied

/-- A node with the contents of all strings in its literals and declared defaults taken out. -/
def Node.emptied (node : Node) : Node :=
  { node with
    inputs := node.inputs.map Input.emptied
    signature := node.signature.map Signature.emptied }

/-- A graph with the contents of all strings in literals and declared defaults taken out. -/
def Graph.emptied (graph : Graph) : Graph :=
  { graph with nodes := graph.nodes.map Node.emptied }

variable {graph : Graph} {node root : Node}

/-- The input of a name is the emptied one. -/
theorem Node.input?_emptied (node : Node) (name : String) :
    node.emptied.input? name = (node.input? name).map Input.emptied := by
  -- Emptying an input keeps its name, so the search ends at the same place.
  unfold Node.input? Node.emptied
  rw [List.find?_map]
  rfl

/-- An emptied node reads the same nodes. -/
theorem Node.sources_emptied (node : Node) : node.emptied.sources = node.sources := by
  -- Emptying an input keeps what it reads.
  unfold Node.sources Node.emptied
  rw [List.filterMap_map]
  rfl

/-- The outputs of an emptied node are the emptied ones. -/
theorem Node.outputPlugs_emptied (node : Node) : node.emptied.outputPlugs = node.outputPlugs.map Plug.emptied := by
  -- The outputs are declared or the node's own one, and neither depends on the inputs' values.
  unfold Node.outputPlugs
  cases declared : node.signature with
  | none =>
    simp only [Node.emptied, declared, Option.map_none]
    rfl
  | some signature =>
    simp only [Node.emptied, declared, Option.map_some, Signature.emptied, List.map_eq_nil_iff]
    split
    · rfl
    · rfl

/-- The default output of an emptied node is the emptied one. -/
theorem Node.defaultOutput_emptied (node : Node) : node.emptied.defaultOutput = node.defaultOutput.emptied := by
  unfold Node.defaultOutput
  rw [Node.outputPlugs_emptied, List.find?_map]
  -- Emptying keeps the names that the output is looked for by.
  have same : (fun plug : Plug => decide (plug.name = defaultOutputName)) ∘ Plug.emptied =
      fun plug => decide (plug.name = defaultOutputName) := rfl
  have own : node.emptied.ownOutput = node.ownOutput.emptied := rfl
  rw [same, own, List.headD_map]
  cases node.outputPlugs.find? (·.name = defaultOutputName) with
  | none => rfl
  | some plug => rfl

namespace Graph

/-- The node of a name is the emptied one. -/
theorem node?_emptied (graph : Graph) (name : String) :
    graph.emptied.node? name = (graph.node? name).map Node.emptied := by
  -- Emptying a node keeps its name, so the search ends at the same place.
  unfold node? emptied
  rw [List.find?_map]
  rfl

/-- The check of a node's sources is the same. -/
theorem checkSources_emptied (graph : Graph) (node : Node) :
    graph.emptied.checkSources node.emptied = graph.checkSources node := by
  -- The check looks at names only.
  unfold checkSources
  simp only [Node.emptied, ← List.map_reverse, List.findSome?_map]
  congr 1
  apply findSome?_congr
  intro input _
  simp only [Function.comp_apply, Input.emptied, node?_emptied, Option.isSome_map]

/-- What is computed for names are the emptied nodes, in the same order. -/
theorem compute_emptied (graph : Graph) (path : List String) (done : List Node) (names : List String) :
    graph.emptied.compute path (done.map Node.emptied) names =
      (graph.compute path done names).map (·.map Node.emptied) := by
  -- The induction follows the traversal, and names alone decide on its turns.
  have seen (name : String) (nodes : List Node) :
      (nodes.map Node.emptied).any (·.name = name) = nodes.any (·.name = name) := List.any_map
  -- The cases are those of the turn: the name is unknown, done, on the path, or to be computed.
  fun_induction graph.compute path done names with
  | case1 path done =>
    rw [compute]
    rfl
  | case2 path done name rest missing =>
    rw [compute_cons, node?_emptied, missing]
    rfl
  | case3 path done name rest node found isDone ih =>
    rw [compute_cons, node?_emptied, found]
    simp only [Option.map_some, seen, if_pos isDone]
    exact ih
  | case4 path done name rest node found unseen onPath =>
    rw [compute_cons, node?_emptied, found]
    simp only [Option.map_some, seen, if_neg unseen, if_pos onPath]
    rfl
  | case5 path done name rest node found unseen off _ ihSources ihRest =>
    rw [compute_cons, node?_emptied, found]
    simp only [Option.map_some, seen, if_neg unseen, if_neg off, checkSources_emptied, Node.sources_emptied,
      ihSources]
    cases graph.checkSources node with
    | error cause => rfl
    | ok _ =>
      cases graph.compute (name :: path) done node.sources with
      | error cause => rfl
      | ok computed =>
        have goesOn := ihRest computed
        rw [List.map_append] at goesOn
        exact goesOn

/-- The order of evaluation of an emptied root is that of the root, emptied. -/
theorem evaluationOrder_emptied (graph : Graph) (root : Node) :
    graph.emptied.evaluationOrder root.emptied = (graph.evaluationOrder root).map (·.map Node.emptied) := by
  -- The root is checked first, and its sources are computed then.
  unfold evaluationOrder
  have computes := compute_emptied graph [root.name] [] root.sources
  rw [List.map_nil] at computes
  rw [checkSources_emptied, Node.sources_emptied]
  have named : root.emptied.name = root.name := rfl
  rw [named, computes]
  cases graph.checkSources root with
  | error cause => rfl
  | ok _ =>
    cases graph.compute [root.name] [] root.sources with
    | error cause => rfl
    | ok computed => simp [bind, Except.bind, Except.map, pure, Except.pure]

end Graph

end Document

/-- A constant with the contents of a string taken out. -/
def Constant.emptied : Constant → Constant
  | .string _ => .string ""
  | other => other

/-- An argument with the contents of a string taken out. -/
def Argument.emptied : Argument → Argument
  | .constant c => .constant c.emptied
  | .flipped source => .flipped source.emptied
  | other => other

/-- A statement with the contents of all strings taken out. -/
def Statement.emptied : Statement → Statement
  | .call function arguments results => .call function (arguments.map Argument.emptied) results
  | other => other

/-- A program with the contents of all strings in its body taken out. -/
def Program.emptied (program : Program) : Program :=
  { program with body := program.body.map Statement.emptied }

/-- The constant for an emptied literal is the emptied one. -/
theorem Constant.ofLiteral?_emptied (type : ShaderType) (value : Literal) :
    ofLiteral? type value.emptied = (ofLiteral? type value).map Constant.emptied := by
  cases value with
  | string s => cases type <;> rfl
  | float x => cases type <;> rfl
  | integer n => cases type <;> rfl
  | boolean b => cases type <;> rfl
  -- A list of numbers has a constant when it is as long as the type asks.
  | vector xs =>
    rcases xs with _ | ⟨a, _ | ⟨b, _ | ⟨c, _ | ⟨d, _ | ⟨e, rest⟩⟩⟩⟩⟩
    all_goals cases type <;> rfl

/-! ### Emission of emptied graphs -/

/-- A sequence of two computations has a result when the first does and then the second. -/
theorem toOption_bind {ε α β : Type} (first : Except ε α) (second : α → Except ε β) :
    (first >>= second).toOption = first.toOption.bind fun a => (second a).toOption := by
  -- There are only the two outcomes.
  cases first with
  | error cause => rfl
  | ok a => rfl

/-- Computations on a list and on a list made of it have results that are made of one another when they have for each
element. -/
theorem toOption_mapM_map {ε α β γ δ : Type} (work : α → Except ε β) (other : γ → Except ε δ) (make : α → γ)
    (turn : β → δ) (list : List α)
    (same : ∀ a ∈ list, (other (make a)).toOption = (work a).toOption.map turn) :
    ((list.map make).mapM other).toOption = (list.mapM work).toOption.map (List.map turn) := by
  -- The head is done first, and where it fails so does the whole on both sides.
  induction list with
  | nil => rfl
  | cons head rest ih =>
    have behind := ih fun a later => same a (List.mem_cons_of_mem _ later)
    rw [List.map_cons, List.mapM_cons, List.mapM_cons, toOption_bind, toOption_bind,
      same head List.mem_cons_self]
    cases (work head).toOption with
    | none => rfl
    | some b =>
      simp only [Option.map_some, Option.bind_some, toOption_bind, behind]
      cases (rest.mapM work).toOption with
      | none => rfl
      | some results => rfl

namespace Shader

open Document (Graph Node Plug Input)

variable {options : EmitOptions} {graph : Graph} {node root : Node}

/-- A connected input of an emptied node reads the same variable. -/
theorem connected_emptied (graph : Graph) (node : Node) (input : Input) (source : String) :
    (connected graph.emptied node.emptied input.emptied source).toOption =
      (connected graph node input source).toOption.map Argument.emptied := by
  -- The source is found on both sides or on neither, and its outputs keep their names.
  unfold connected
  rw [Graph.node?_emptied]
  cases graph.node? source with
  | none => rfl
  | some feeding =>
    have output : input.emptied.output = input.output := rfl
    rw [output]
    cases input.output with
    | none =>
      simp only [Option.map_some, Node.defaultOutput_emptied]
      rfl
    | some output =>
      -- The outputs of the source bear the same names.
      have listed : feeding.emptied.outputPlugs.any (·.name = output) =
          feeding.outputPlugs.any (·.name = output) := by
        rw [Node.outputPlugs_emptied, List.any_map]
        rfl
      simp only [Option.map_some, listed]
      split
      · rfl
      · rfl

/-- The constant for an emptied literal is the emptied one, if the literal has any. -/
theorem literal_emptied (node : Node) (name type : String) (value : Literal) :
    (literal node.emptied name type value.emptied).toOption =
      (literal node name type value).toOption.map Argument.emptied := by
  -- The type is known on both sides or on neither, and the literal then expressed alike.
  unfold literal
  rw [Literal.valueType_emptied, toOption_bind, toOption_bind]
  have same : inputType node.emptied = inputType node := rfl
  rw [same]
  cases inputType node name (if type = "" then value.valueType else type) with
  | error cause => rfl
  | ok known =>
    simp only [Except.toOption, Option.bind_some, Constant.ofLiteral?_emptied]
    cases Constant.ofLiteral? known value with
    | none => rfl
    | some constant => rfl

/-- What stands for an input of an emptied node is the emptied argument. -/
theorem plainArgument_emptied (graph : Graph) (node : Node) (name declared : String) (default : Option Literal) :
    (plainArgument graph.emptied node.emptied name declared (default.map Literal.emptied)).toOption =
      (plainArgument graph node name declared default).toOption.map Argument.emptied := by
  have image : node.emptied.isImage = node.isImage := rfl
  have types : inputType node.emptied = inputType node := rfl
  have unset (type : String) :
      (if name = coordinatesName && node.isImage then .ok .coordinates
        else (inputType node name type).map Argument.zero).toOption =
      (if name = coordinatesName && node.isImage then .ok .coordinates
        else (inputType node name type).map Argument.zero).toOption.map Argument.emptied := by
    split
    · rfl
    · cases inputType node name type with
      | error cause => rfl
      | ok known => rfl
  -- Names, types and what is read are the same on both sides.
  unfold plainArgument
  rw [Node.input?_emptied, image, types]
  -- Where nothing is connected, the literal decides, or else the type.
  cases node.input? name with
  | none =>
    cases default with
    | none => exact unset declared
    | some value => exact literal_emptied node name declared value
  | some input =>
    have reads : input.emptied.node = input.node := rfl
    have value : input.emptied.value.or (default.map Literal.emptied) =
        (input.value.or default).map Literal.emptied := Option.map_or.symm
    simp only [Option.map_some, Option.bind_some, reads, value]
    cases input.node with
    | some source => exact connected_emptied graph node input source
    | none =>
      cases input.value.or default with
      | none => exact unset _
      | some value => exact literal_emptied node name _ value

/-- The argument for an input of an emptied node is the emptied one. -/
theorem argument_emptied (options : EmitOptions) (graph : Graph) (node : Node) (name declared : String)
    (default : Option Literal) :
    (argument options graph.emptied node.emptied name declared (default.map Literal.emptied)).toOption =
      (argument options graph node name declared default).toOption.map Argument.emptied := by
  -- Whether an argument is turned around does not depend on its value.
  unfold argument
  rw [toOption_bind, toOption_bind, plainArgument_emptied]
  have image : node.emptied.isImage = node.isImage := rfl
  rw [image]
  cases (plainArgument graph node name declared default).toOption with
  | none => rfl
  | some plain =>
    simp only [Option.map_some, Option.bind_some]
    split
    · rfl
    · rfl

/-- The arguments of an emptied node are the emptied ones. -/
theorem arguments_emptied (options : EmitOptions) (graph : Graph) (node : Node) :
    (arguments options graph.emptied node.emptied).toOption =
      (arguments options graph node).toOption.map (List.map Argument.emptied) := by
  -- With a signature the plugs are served, and without one the inputs.
  unfold arguments
  cases declared : node.signature with
  | some signature =>
    simp only [Node.emptied, declared, Option.map_some]
    exact toOption_mapM_map _ _ Plug.emptied _ signature.inputs fun plug _ =>
      argument_emptied options graph node plug.name plug.type plug.default
  | none =>
    have authored := toOption_mapM_map (fun input => argument options graph node input.name input.type none)
      (fun input => argument options graph.emptied node.emptied input.name input.type none) Input.emptied
      Argument.emptied node.inputs fun input _ => argument_emptied options graph node input.name input.type none
    have image : node.emptied.isImage = node.isImage := rfl
    have lacks : (node.emptied.input? coordinatesName).isNone = (node.input? coordinatesName).isNone := by
      rw [Node.input?_emptied, Option.isNone_map]
    have inputs : node.emptied.inputs = node.inputs.map Input.emptied := rfl
    have undeclared : node.emptied.signature = none := by
      unfold Node.emptied
      rw [declared, Option.map_none]
    simp only [undeclared, inputs, toOption_bind, authored, image, lacks]
    cases (node.inputs.mapM fun input => argument options graph node input.name input.type none).toOption with
    | none => rfl
    | some passed =>
      simp only [Option.map_some, Option.bind_some]
      split
      -- The coordinates that an image is given come last.
      · have given := argument_emptied options graph node coordinatesName "vector2" none
        rw [Option.map_none] at given
        rw [toOption_bind, toOption_bind, given]
        cases (argument options graph node coordinatesName "vector2" none).toOption with
        | none => rfl
        | some last => simp [pure, Except.pure, Except.toOption]
      · rfl

/-- The declaration for an emptied output is the same. -/
theorem declaration_emptied (node : Node) (plug : Plug) :
    (declaration node.emptied plug.emptied).toOption =
      (declaration node plug).toOption.map Statement.emptied := by
  -- A declaration looks at the type and the name only.
  have type : plug.emptied.type = plug.type := rfl
  unfold declaration
  rw [type]
  split
  · rfl
  · rfl

/-- The statements for an emptied node are the emptied ones. -/
theorem statements_emptied (options : EmitOptions) (graph : Graph) (node : Node) :
    (statements options graph.emptied node.emptied).toOption =
      (statements options graph node).toOption.map (List.map Statement.emptied) := by
  -- Each of the three parts of a block is emptied on its own.
  unfold statements
  have category : node.emptied.category = node.category := rfl
  rw [category]
  split
  · rfl
  · have declares := toOption_mapM_map (declaration node) (declaration node.emptied) Plug.emptied
      Statement.emptied node.outputPlugs fun plug _ => declaration_emptied node plug
    simp only [toOption_bind, arguments_emptied, Node.outputPlugs_emptied, declares]
    cases (arguments options graph node).toOption with
    | none => rfl
    | some passed =>
      simp only [Option.map_some, Option.bind_some]
      cases (node.outputPlugs.mapM (declaration node)).toOption with
      | none => rfl
      | some declarations =>
        simp only [Option.map_some, Option.bind_some, pure, Except.pure, Except.toOption, List.map_append,
          List.map_map]
        rfl

/-- The program for an emptied root is the emptied one, if there is any. -/
theorem emit_emptied (options : EmitOptions) (name : String) (graph : Graph) (root : Node) :
    (emit options name graph.emptied root.emptied).toOption =
      (emit options name graph root).toOption.map Program.emptied := by
  -- The order comes first, then the type of the result, and then the blocks.
  unfold emit
  rw [toOption_bind, toOption_bind, Graph.evaluationOrder_emptied]
  cases graph.evaluationOrder root with
  | error cause => rfl
  | ok order =>
    have type : root.emptied.defaultOutput.type = root.defaultOutput.type := by
      rw [Node.defaultOutput_emptied]
      rfl
    have output : root.emptied.defaultOutput.name = root.defaultOutput.name := by
      rw [Node.defaultOutput_emptied]
      rfl
    -- The blocks are made node by node, and emptying commutes with each.
    have computes := toOption_mapM_map (statements options graph) (statements options graph.emptied)
      Node.emptied (List.map Statement.emptied) order fun node _ => statements_emptied options graph node
    simp only [Except.map, Except.toOption, Option.bind_some, type, output]
    cases ShaderType.ofValueType? root.defaultOutput.type with
    | none => rfl
    | some known =>
      change Except.toOption (_ >>= _) = Option.map _ (Except.toOption (_ >>= _))
      rw [toOption_bind, toOption_bind, computes]
      cases (order.mapM (statements options graph)).toOption with
      | none => rfl
      | some computed =>
        simp only [Option.map_some, Option.bind_some, pure, Except.pure, Except.toOption, Program.emptied,
          List.map_append, List.map_flatten]
        rfl

end Shader

end ShadeBake
