import ShadeBake.Proofs.Success
import ShadeBake.Shader.Emit

/-! The body of an emitted program: one block of lines for each node of the order of evaluation, which declares
the node's outputs and makes the one call that computes them, with that node's arguments. -/

namespace ShadeBake

/-- A call: a function, what is passed to it, and the variables that its results go to. -/
structure Call where
  function : String
  passed : List Argument
  results : List Variable

/-- The line that makes a call. -/
def Call.line (call : Call) : Statement :=
  .call call.function call.passed call.results

/-- The lines for one node: declarations, and a call behind them. -/
structure Block where
  declarations : List Statement
  call : Call

/-- The lines of a block in order. -/
def Block.lines (block : Block) : List Statement :=
  block.declarations ++ [block.call.line]

namespace Statement

/-- The call that a statement makes. -/
def call? : Statement → Option Call
  | .call function passed results => some ⟨function, passed, results⟩
  | _ => none

end Statement

namespace Program

/-- The calls of a program in order. -/
def calls (program : Program) : List Call :=
  program.body.filterMap Statement.call?

end Program

/-- The output that is read by default is one of those of the node. -/
theorem Document.Node.defaultOutput_mem (node : Document.Node) : node.defaultOutput ∈ node.outputPlugs := by
  -- A node without declared outputs is given one.
  have nonempty : node.outputPlugs ≠ [] := by
    unfold outputPlugs
    split
    · split
      · exact List.cons_ne_nil _ _
      · assumption
    · exact List.cons_ne_nil _ _
  unfold defaultOutput
  cases found : node.outputPlugs.find? (·.name = defaultOutputName) with
  | some plug => exact List.mem_of_find?_eq_some found
  -- Without an output of the default name it is the first.
  | none =>
    cases plugs : node.outputPlugs with
    | nil => exact absurd plugs nonempty
    | cons first rest => exact List.mem_cons_self

namespace Shader

open Document (Graph Node Plug)

/-- A line declares an output of a node when it starts the output's variable at the zero of the shader type that
stands for the output's value type. -/
def Declares (node : Node) (plug : Plug) (line : Statement) : Prop :=
  ∃ type, ShaderType.ofValueType? plug.type = some type ∧ line = .declare type (node.outputVariable plug.name)

/-- A call serves a node of a graph when it passes the arguments that the node has there. -/
structure Serves (options : EmitOptions) (graph : Graph) (node : Node) (call : Call) : Prop where
  defined : node.category ≠ ""
  function : call.function = node.functionName
  passed : arguments options graph node = .ok call.passed
  results : call.results = node.outputPlugs.map fun plug => node.outputVariable plug.name

/-- A block computes a node of a graph when it declares the node's outputs one by one, and its call serves the
node. -/
structure Computes (options : EmitOptions) (graph : Graph) (node : Node) (block : Block) : Prop where
  declares : List.Forall₂ (Declares node) node.outputPlugs block.declarations
  serves : Serves options graph node block.call

/-- An argument as it is passed for an input: coordinates of an image are turned around if the options say
so. -/
def oriented (options : EmitOptions) (node : Node) (name : String) (plain : Argument) : Argument :=
  if name = coordinatesName && node.isImage && options.flipImages then .flipped plain else plain

/-- The argument for an input is the plain one as it is passed. -/
theorem exists_plain {options : EmitOptions} {graph : Graph} {node : Node} {name declared : String}
    {default : Option Literal} {passed : Argument}
    (passes : argument options graph node name declared default = .ok passed) :
    ∃ plain, plainArgument graph node name declared default = .ok plain ∧
      passed = oriented options node name plain := by
  -- The argument is computed first and turned afterwards.
  obtain ⟨plain, works, done⟩ := ok_of_bind passes
  refine ⟨plain, works, ?_⟩
  unfold oriented
  split at done
  · rename_i turned
    rw [if_pos turned]
    exact (Except.ok.inj done).symm
  · rename_i upright
    rw [if_neg upright]
    exact (Except.ok.inj done).symm

/-- A connected input passes the variable of the output that it reads, the default one if it names none, and
that is an output of the source. -/
theorem argument_of_connected {options : EmitOptions} {graph : Graph} {node : Node}
    {input : Document.Input} {name declared source : String} {default : Option Literal} {passed : Argument}
    (found : node.input? name = some input) (reads : input.node = some source)
    (passes : argument options graph node name declared default = .ok passed) :
    ∃ feeding, graph.node? source = some feeding ∧ ∃ plug ∈ feeding.outputPlugs,
      plug.name = input.output.getD feeding.defaultOutput.name ∧
      passed = oriented options node name (.read (feeding.outputVariable plug.name)) := by
  obtain ⟨plain, works, rfl⟩ := exists_plain passes
  simp only [plainArgument, found, Option.bind_some, reads, Option.map_some, connected] at works
  -- A source that is not in the graph is refused.
  split at works
  · simp at works
  · rename_i feeding there
    refine ⟨feeding, there, ?_⟩
    -- An output that is named must be declared, and the default one is read unasked.
    cases named : input.output with
    | none =>
      simp only [named, Except.ok.injEq] at works
      exact ⟨feeding.defaultOutput, feeding.defaultOutput_mem, rfl, by rw [works]⟩
    | some output =>
      simp only [named] at works
      split at works
      · rename_i declared
        obtain ⟨plug, inside, same⟩ := List.any_eq_true.1 declared
        obtain rfl : plug.name = output := of_decide_eq_true same
        exact ⟨plug, inside, rfl, by rw [Except.ok.inj works]⟩
      · simp at works

/-- The declaration for an output declares it. -/
theorem declares_of_declaration {node : Node} {plug : Plug} {line : Statement}
    (declares : declaration node plug = .ok line) : Declares node plug line := by
  unfold declaration at declares
  split at declares
  · rename_i type known
    exact ⟨type, known, (Except.ok.inj declares).symm⟩
  -- A type that shaders do not have declares nothing.
  · simp at declares

/-- The statements for a node are the lines of a block that computes it. -/
theorem block_of_statements {options : EmitOptions} {graph : Graph} {node : Node} {lines : List Statement}
    (computes : statements options graph node = .ok lines) :
    ∃ block, Computes options graph node block ∧ lines = block.lines := by
  unfold statements at computes
  -- A node without a category is refused before anything is emitted.
  split at computes
  · simp [throw, throwThe, MonadExceptOf.throw, bind, Except.bind] at computes
  · rename_i defined
    obtain ⟨passed, passes, work⟩ := ok_of_bind computes
    obtain ⟨declarations, declares, done⟩ := ok_of_bind work
    simp only [pure, Except.pure, Except.ok.injEq] at done
    subst done
    exact ⟨⟨declarations, node.functionName, passed, _⟩,
      ⟨(forall₂_of_mapM declares).imp fun _ _ => declares_of_declaration, defined, rfl, passes, rfl⟩, rfl⟩

/-- The statements for some nodes are the lines of one block for each, in their order. -/
theorem blocks_of_mapM {options : EmitOptions} {graph : Graph} {order : List Node}
    {computed : List (List Statement)} (computes : order.mapM (statements options graph) = .ok computed) :
    ∃ blocks, List.Forall₂ (Computes options graph) order blocks ∧ computed.flatten = blocks.flatMap Block.lines := by
  have each := forall₂_of_mapM computes
  clear computes
  -- Node by node, one block is put in front of those for the nodes behind it.
  induction each with
  | nil => exact ⟨[], .nil, rfl⟩
  | cons one _ ih =>
    obtain ⟨block, computes, rfl⟩ := block_of_statements one
    obtain ⟨blocks, others, same⟩ := ih
    exact ⟨block :: blocks, .cons computes others, by rw [List.flatten_cons, List.flatMap_cons, same]⟩

/-- An emitted program consists of one block for each node of the order of evaluation, and sets its result to
the root's default output, of whose type it is. -/
theorem emit_blocks {options : EmitOptions} {name : String} {graph : Graph} {root : Node}
    {program : Program} (emits : emit options name graph root = .ok program) :
    ∃ order blocks, graph.evaluationOrder root = .ok order ∧
      List.Forall₂ (Computes options graph) order blocks ∧
      program.body = blocks.flatMap Block.lines ++ [.result (root.outputVariable root.defaultOutput.name)] ∧
      ShaderType.ofValueType? root.defaultOutput.type = some program.type := by
  -- The order is computed, then the type of the result, and then one block for each node.
  obtain ⟨order, evaluates, work⟩ := ok_of_bind emits
  dsimp only at work
  split at work
  · rename_i type known
    obtain ⟨computed, computes, done⟩ := ok_of_bind work
    simp only [pure, Except.pure, Except.ok.injEq] at done
    subst done
    obtain ⟨blocks, each, same⟩ := blocks_of_mapM computes
    exact ⟨order, blocks, evaluates, each, by rw [same], known⟩
  · simp [throw, throwThe, MonadExceptOf.throw] at work

/-- Declarations of variables make no calls. -/
theorem calls_of_declares {node : Node} {plugs : List Plug} {lines : List Statement}
    (declares : List.Forall₂ (Declares node) plugs lines) : lines.filterMap Statement.call? = [] := by
  -- A declaration makes no call.
  induction declares with
  | nil => rfl
  | cons one _ ih =>
    obtain ⟨type, _, rfl⟩ := one
    rw [List.filterMap_cons, ih]
    rfl

/-- The lines of blocks that compute nodes make the calls of these blocks. -/
theorem calls_of_blocks {options : EmitOptions} {graph : Graph} {order : List Node} {blocks : List Block}
    (computes : List.Forall₂ (Computes options graph) order blocks) :
    (blocks.flatMap Block.lines).filterMap Statement.call? = blocks.map Block.call := by
  -- Each block ends in its call, which is the only one in it.
  induction computes with
  | nil => rfl
  | cons one _ ih =>
    rw [List.flatMap_cons, List.filterMap_append, ih, Block.lines, List.filterMap_append,
      calls_of_declares one.declares]
    rfl

/-- An emitted program makes one call for each node of the order of evaluation. -/
theorem emit_calls {options : EmitOptions} {name : String} {graph : Graph} {root : Node}
    {program : Program} (emits : emit options name graph root = .ok program) :
    ∃ order, graph.evaluationOrder root = .ok order ∧
      List.Forall₂ (Serves options graph) order program.calls := by
  obtain ⟨order, blocks, evaluates, computes, body, _⟩ := emit_blocks emits
  refine ⟨order, evaluates, ?_⟩
  -- Setting the result at the end is no call.
  have silent (v : Variable) : [Statement.result v].filterMap Statement.call? = [] := rfl
  rw [Program.calls, body, List.filterMap_append, silent, List.append_nil, calls_of_blocks computes,
    List.forall₂_map_right_iff]
  exact computes.imp fun _ _ => Computes.serves

end Shader

end ShadeBake
