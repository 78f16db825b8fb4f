import ShadeBake.Proofs.Shader.Arguments
import ShadeBake.Proofs.Shader.Literals
import ShadeBake.Proofs.Shader.Order

/-! The source text of a program, read line by line. Each statement has a line of its own behind the brace that opens
the body, as long as no function has a line feed in its name, and the lines that call functions are those of the
program's calls. -/

namespace ShadeBake

open Text (feeds)

/-! ### Reading a source -/

namespace Source

/-- The lines of the body of a source: those behind the last line that is an opening brace and nothing else. -/
def body (source : String) : List String :=
  ((Text.lines source.toList).reverse.takeWhile (· ≠ ['\x7b'])).reverse.map String.ofList

/-- A line makes a call when it begins like one. -/
def isCall (line : String) : Bool :=
  "    mx_".toList.isPrefixOf line.toList

/-- The lines of the body of a source that make calls. -/
def calls (source : String) : List String :=
  (body source).filter isCall

/-- A name is a word when it has letters, digits and underscores only. -/
def IsWord (name : String) : Prop :=
  ∀ c ∈ name.toList, c.isAlphanum = true ∨ c = '_'

instance (name : String) : Decidable (IsWord name) :=
  decidable_of_iff (name.toList.all (fun c => c.isAlphanum || c == '_') = true) (by simp [IsWord])

/-- A word has no line feeds. -/
theorem IsWord.feeds {name : String} (word : IsWord name) : feeds name = 0 := by
  -- A line feed is neither a letter nor a digit nor an underscore.
  refine List.count_eq_zero.2 fun inside => ?_
  rcases word '\n' inside with letter | underscore
  · exact absurd letter (by decide)
  · exact absurd underscore (by decide)

end Source

/-! ### Lines of statements -/

/-- The text of a call: its function, and in brackets what is passed and the variables for its results. -/
def Call.text (call : Call) : String :=
  "    mx_" ++ call.function ++ "(" ++
    ", ".intercalate (call.passed.map Argument.text ++ call.results.map Variable.text) ++ ");"

/-- The line of a statement, without the line feed that ends it. -/
def Statement.line : Statement → String
  | .declare type v => "    " ++ type.name ++ " " ++ v.text ++ " = " ++ type.zero ++ ";"
  | .call function passed results => (Call.mk function passed results).text
  | .result v => "    out = " ++ v.text ++ ";"

/-- The text of a statement is its line, ended by a line feed. -/
theorem Statement.text_eq (statement : Statement) : statement.text = statement.line ++ "\n" := by
  -- The line feed is the last character of each text.
  cases statement with
  | declare type v => simp [text, line, String.append_assoc]
  | call function passed results => simp [text, line, Call.text, String.append_assoc]
  | result v => simp [text, line, defaultOutputName, String.append_assoc]

/-- A line of a body begins with a space and ends in a semicolon. -/
structure IsBodyLine (line : List Char) : Prop where
  indented : line.head? = some ' '
  ended : line.getLast? = some ';'

instance (line : List Char) : Decidable (IsBodyLine line) :=
  decidable_of_iff (line.head? = some ' ' ∧ line.getLast? = some ';')
    ⟨fun both => ⟨both.1, both.2⟩, fun both => ⟨both.indented, both.ended⟩⟩

/-- The line of a statement is one of a body. -/
theorem Statement.isBodyLine_line (statement : Statement) : IsBodyLine statement.line.toList := by
  -- The first text of each line begins with spaces, and the last one ends in a semicolon.
  constructor
  · cases statement <;> simp [line, Call.text]
  · cases statement with
    | declare type v =>
      rw [line, String.toList_append, List.getLast?_append]
      rfl
    | call function passed results =>
      rw [line, Call.text, String.toList_append, List.getLast?_append]
      rfl
    | result v =>
      rw [line, String.toList_append, List.getLast?_append]
      rfl

/-- A line of a body does not lose its last character. -/
theorem IsBodyLine.dropReturn {line : List Char} (isBodyLine : IsBodyLine line) : Text.dropReturn line = line := by
  -- The last character is a semicolon, and only a carriage return would be dropped.
  unfold Text.dropReturn
  rw [if_neg (by simp [isBodyLine.ended])]

/-- The body of a source is what stands behind its last opening brace, if that is followed by lines of a body. -/
theorem Source.body_of_rows {source : String} {head : List Char} {rows : List (List Char)}
    (whole : source.toList =
      head ++ '\n' :: ('\x7b' :: '\n' :: (rows.flatMap (· ++ ['\n']) ++ ['\x7d', '\n'])))
    (valid : ∀ row ∈ rows, IsBodyLine row ∧ '\n' ∉ row) :
    Source.body source = rows.map String.ofList ++ ["\x7d"] := by
  have brace : (Text.splitOn (· = '\n') ['\x7b']).map Text.dropReturn = [['\x7b']] := rfl
  have close : Text.lines ['\x7d', '\n'] = [['\x7d']] := rfl
  -- Each row is one line of the source, and so are the two braces.
  have block := Text.lines_flatMap_append (fun row inside => (valid row inside).2)
    (fun row inside => (valid row inside).1.dropReturn) ['\x7d', '\n']
  have opening := Text.lines_append_feed ['\x7b'] (rows.flatMap (· ++ ['\n']) ++ ['\x7d', '\n'])
  rw [List.singleton_append, brace, block, close] at opening
  -- No line behind the brace is another one, so reading from the end stops there.
  have behind : ∀ row ∈ (rows ++ [['\x7d']]).reverse, decide (row ≠ ['\x7b']) = true := by
    intro row listed
    rw [decide_eq_true_eq]
    rintro rfl
    rcases List.mem_append.1 (List.mem_reverse.1 listed) with inside | last
    · exact absurd (valid _ inside).1.indented (by decide)
    · exact absurd last (by decide)
  unfold Source.body
  rw [whole, Text.lines_append_feed, opening, List.singleton_append, List.reverse_append, List.reverse_cons,
    List.append_assoc, List.takeWhile_append_of_pos behind, List.singleton_append,
    List.takeWhile_cons_of_neg (by simp), List.append_nil, List.reverse_reverse, List.map_append]
  rfl

/-! ### Statements without line feeds -/

/-- Any number is written in one line. -/
theorem Binary.feed_not_mem_sourceText (x : Binary) (format : BinaryFormat) : '\n' ∉ x.sourceText format := by
  intro inside
  cases finite : x.isFinite with
  | true => simpa using (Binary.isNumeral_sourceText format finite).mem inside
  -- An infinity or NaN is written as a word.
  | false =>
    cases x with
    | nan => simp [sourceText, text, isWhole] at inside
    | infinite negative => cases negative <;> simp [sourceText, text, signed, isWhole] at inside
    | finite negative significand exponent => simp [isFinite] at finite

/-- A variable is written in one line. -/
theorem Variable.feeds_text (v : Variable) : feeds v.text = 0 := by
  -- Whatever a name holds, its part of the variable has letters, digits and underscores only.
  have part (name : List Char) : '\n' ∉ Variable.part name := by
    have chars : '\n' ∉ name.map fun c => if c.isAlphanum then c else '_' := by
      intro inside
      obtain ⟨c, _, same⟩ := List.mem_map.1 inside
      -- A character that stays is a letter or a digit.
      split at same
      · rename_i kept
        rw [same] at kept
        exact absurd kept (by decide)
      · exact absurd same (by decide)
    unfold Variable.part
    dsimp only
    split
    · exact List.not_mem_nil
    · split
      · exact fun inside => (List.mem_cons.1 inside).elim (by decide) chars
      · exact chars
  refine List.count_eq_zero.2 ?_
  rw [text, String.toList_ofList, List.mem_append, List.mem_cons]
  rintro (front | underscore | back)
  · exact part _ front
  · exact absurd underscore (by decide)
  · exact part _ back

/-- Parts that are each written in one line are written in one between commas. -/
theorem Text.feeds_intercalate_eq_zero {list : List String} (none : ∀ part ∈ list, feeds part = 0) :
    feeds (", ".intercalate list) = 0 := by
  -- The commas and spaces between the parts are no line feeds either.
  rw [Text.feeds_intercalate]
  exact List.sum_eq_zero fun count inside => by
    obtain ⟨part, listed, rfl⟩ := List.mem_map.1 inside
    exact none part listed

/-- A constant is written in one line. -/
theorem Constant.feeds_text (c : Constant) : feeds c.text = 0 := by
  -- Strings are written with escapes, and all other constants are made of numbers and names of types.
  have number (x : Binary) : feeds (numberText x) = 0 := by
    refine List.count_eq_zero.2 ?_
    rw [toList_numberText]
    exact x.feed_not_mem_sourceText .single
  have numbers (parts : List Binary) : feeds (partsText parts) = 0 := by
    refine Text.feeds_intercalate_eq_zero fun part inside => ?_
    obtain ⟨x, _, rfl⟩ := List.mem_map.1 inside
    exact number x
  cases c with
  | string s => exact List.count_eq_zero.2 (Quoted.feed_not_mem_literal s)
  | number x => exact number x
  -- An integer has digits and perhaps a sign.
  | integer n =>
    have numeral : Decimal.IsNumeral (Binary.signed (decide (n < 0)) (Decimal.digitsOf n.natAbs)) :=
      ⟨_, _, .whole (Decimal.isDigits_digitsOf n.natAbs), rfl⟩
    refine List.count_eq_zero.2 fun inside => ?_
    change '\n' ∈ (integerText n).toList at inside
    rw [integerText, String.toList_ofList] at inside
    exact absurd (numeral.mem inside) (by decide)
  | construct type parts =>
    have named : feeds type.name = 0 := by cases type <;> decide
    change feeds (type.name ++ "(" ++ partsText parts ++ ")") = 0
    simp only [Text.feeds_append, named, numbers]
    decide
  | color4 red green blue alpha =>
    change feeds ("color4(color(" ++ partsText [red, green, blue] ++ "), " ++ numberText alpha ++ ")") = 0
    simp only [Text.feeds_append, number, numbers]
    decide

/-- An argument is written in one line. -/
theorem Argument.feeds_text (argument : Argument) : feeds argument.text = 0 := by
  -- Coordinates are turned around in brackets, and all else is a variable, a constant or a zero.
  induction argument with
  | read v => exact v.feeds_text
  | constant c => exact c.feeds_text
  | zero type => cases type <;> decide
  | coordinates => decide
  | flipped source ih =>
    simp only [text, Text.feeds_append, ih]
    decide

/-- A call of a function without line feeds in its name is written in one line. -/
theorem Call.feeds_text {call : Call} (named : feeds call.function = 0) : feeds call.text = 0 := by
  -- The brackets hold arguments and variables.
  have inside : feeds (", ".intercalate (call.passed.map Argument.text ++ call.results.map Variable.text)) = 0 := by
    refine Text.feeds_intercalate_eq_zero fun part listed => ?_
    rcases List.mem_append.1 listed with passed | result
    · obtain ⟨argument, _, rfl⟩ := List.mem_map.1 passed
      exact argument.feeds_text
    · obtain ⟨v, _, rfl⟩ := List.mem_map.1 result
      exact v.feeds_text
  simp only [text, Text.feeds_append, named, inside]
  decide

/-- So is every statement that calls no other function. -/
theorem Statement.feed_not_mem_line {statement : Statement}
    (named : ∀ call ∈ statement.call?, feeds call.function = 0) : '\n' ∉ statement.line.toList := by
  -- Only a call has a text in it that is not made of variables, types and zeros.
  refine List.count_eq_zero.1 ?_
  change feeds statement.line = 0
  cases statement with
  | declare type v =>
    have typed : feeds type.name = 0 ∧ feeds type.zero = 0 := by cases type <;> decide
    simp only [line, Text.feeds_append, typed, v.feeds_text]
    decide
  | call function passed results => exact Call.feeds_text (named _ rfl)
  | result v =>
    simp only [line, Text.feeds_append, v.feeds_text]
    decide

/-! ### The body of a program's source -/

namespace Program

/-- The source of a program is a head that ends in the line of the opening brace, the lines of the statements and that
of the closing brace. -/
theorem exists_toList_text (program : Program) :
    ∃ head, program.text.toList = head ++ '\n' :: ('\x7b' :: '\n' ::
      ((program.body.map (·.line.toList)).flatMap (· ++ ['\n']) ++ ['\x7d', '\n'])) := by
  -- The source is cut behind the opening brace, which has a line of its own.
  have body : (String.join (program.body.map Statement.text)).toList =
      (program.body.map (·.line.toList)).flatMap (· ++ ['\n']) := by
    rw [String.toList_join, List.flatMap_map, List.flatMap_map]
    congr 1
    funext statement
    rw [statement.text_eq, String.toList_append]
    rfl
  have brace : "\n)\n\x7b\n".toList = ['\n', ')'] ++ '\n' :: ['\x7b', '\n'] := rfl
  have close : "\x7d\n".toList = ['\x7d', '\n'] := rfl
  -- The pieces are put together again around the brace.
  have split (front rows : List Char) : front ++ (['\n', ')'] ++ '\n' :: ['\x7b', '\n']) ++ rows ++ ['\x7d', '\n'] =
      (front ++ ['\n', ')']) ++ '\n' :: ('\x7b' :: '\n' :: (rows ++ ['\x7d', '\n'])) := by simp
  unfold text
  rw [String.toList_append, String.toList_append, String.toList_append, body, brace, close]
  exact ⟨_, split _ _⟩

/-- The body of a program's source has one line for each statement, and that of the closing brace. -/
theorem body_text {program : Program} (named : ∀ call ∈ program.calls, feeds call.function = 0) :
    Source.body program.text = program.body.map Statement.line ++ ["\x7d"] := by
  -- Every statement is written as one line of a body, so the body is read back line by line.
  obtain ⟨head, whole⟩ := program.exists_toList_text
  have valid : ∀ row ∈ program.body.map (·.line.toList), IsBodyLine row ∧ '\n' ∉ row := by
    intro row listed
    obtain ⟨statement, inside, rfl⟩ := List.mem_map.1 listed
    have own : ∀ call ∈ statement.call?, feeds call.function = 0 := fun call made =>
      named call (List.mem_filterMap.2 ⟨statement, inside, made⟩)
    exact ⟨statement.isBodyLine_line, Statement.feed_not_mem_line own⟩
  have lines : (program.body.map (·.line.toList)).map String.ofList = program.body.map Statement.line := by
    rw [List.map_map]
    exact List.map_congr_left fun statement _ => String.ofList_toList
  rw [Source.body_of_rows whole valid, lines]

/-- The lines that make calls are those of statements that do. -/
theorem filter_isCall_lines (body : List Statement) :
    (body.map Statement.line).filter Source.isCall = (body.filterMap Statement.call?).map Call.text := by
  induction body with
  | nil => rfl
  | cons statement rest ih =>
    rw [List.map_cons]
    cases statement with
    -- No type's name begins like that of a function.
    | declare type v =>
      have silent : Source.isCall (Statement.declare type v).line = false := by
        cases type <;> simp [Source.isCall, Statement.line, ShaderType.name, List.isPrefixOf]
      rw [List.filter_cons_of_neg (by simp [silent]), ih, List.filterMap_cons_none rfl]
    -- The text of a call begins as all calls do.
    | call function passed results =>
      have calls : Source.isCall (Statement.call function passed results).line = true := by
        simp [Source.isCall, Statement.line, Call.text]
      rw [List.filter_cons_of_pos calls, ih]
      rfl
    | result v =>
      have silent : Source.isCall (Statement.result v).line = false := by
        simp [Source.isCall, Statement.line, List.isPrefixOf]
      rw [List.filter_cons_of_neg (by simp [silent]), ih, List.filterMap_cons_none rfl]

/-- The source of a program makes the calls of the program, one to a line. -/
theorem calls_text {program : Program} (named : ∀ call ∈ program.calls, feeds call.function = 0) :
    Source.calls program.text = program.calls.map Call.text := by
  -- The closing brace and the other statements do not begin like a call.
  unfold Source.calls
  rw [body_text named, List.filter_append, filter_isCall_lines, calls]
  exact List.append_nil _

end Program

namespace Shader

open Document (Graph Node Signature Plug)

variable {options : EmitOptions} {graph : Graph} {node root : Node}

/-- Lines print a node when they declare its outputs one by one, each at the zero of its type, and then call its function
with its arguments and the variables of its outputs. -/
def Prints (options : EmitOptions) (graph : Graph) (node : Node) (lines : List String) : Prop :=
  ∃ declarations passed,
    List.Forall₂ (fun plug line => ∃ type, ShaderType.ofValueType? plug.type = some type ∧
      line = "    " ++ type.name ++ " " ++ (node.outputVariable plug.name).text ++ " = " ++ type.zero ++ ";")
      node.outputPlugs declarations ∧
    arguments options graph node = .ok passed ∧
    lines = declarations ++ ["    mx_" ++ node.functionName ++ "(" ++ ", ".intercalate (passed.map Argument.text ++
      node.outputPlugs.map fun plug => (node.outputVariable plug.name).text) ++ ");"]

/-- The lines of a block that computes a node print it. -/
theorem Computes.prints {block : Block} (computes : Computes options graph node block) :
    Prints options graph node (block.lines.map Statement.line) := by
  refine ⟨block.declarations.map Statement.line, block.call.passed, ?_, computes.serves.passed, ?_⟩
  · rw [List.forall₂_map_right_iff]
    refine computes.declares.imp fun plug line declares => ?_
    obtain ⟨type, known, rfl⟩ := declares
    exact ⟨type, known, rfl⟩
  -- The last line is that of the call, which writes the variables of the outputs.
  · have results : block.call.results.map Variable.text =
        node.outputPlugs.map fun plug => (node.outputVariable plug.name).text := by
      rw [computes.serves.results, List.map_map]
      rfl
    rw [Block.lines, List.map_append, ← results, ← computes.serves.function]
    rfl

/-- A node whose definition is known is printed with one text for each declared input in order, that of the argument
that serves the input. -/
theorem Prints.exists_texts {signature : Signature} (known : node.signature = some signature) {lines : List String}
    (prints : Prints options graph node lines) :
    ∃ declarations texts,
      lines = declarations ++ ["    mx_" ++ node.functionName ++ "(" ++ ", ".intercalate (texts ++
        node.outputPlugs.map fun plug => (node.outputVariable plug.name).text) ++ ");"] ∧
      List.Forall₂ (fun plug text => ∃ passed, ServesPlug options graph node plug passed ∧ text = passed.text)
        signature.inputs texts := by
  -- Where the definition is known, the arguments are those that serve its inputs.
  obtain ⟨declarations, passed, _, passes, rfl⟩ := prints
  refine ⟨declarations, passed.map Argument.text, rfl, ?_⟩
  rw [List.forall₂_map_right_iff]
  exact ((arguments_eq_ok_iff known).1 passes).imp fun plug argument serves => ⟨argument, serves, rfl⟩

/-- The body of an emitted source prints the nodes of the order of evaluation one after the other, and then sets the
result to the default output of the root, if the functions have words for names. -/
theorem emit_source {name : String} {program : Program} (emits : emit options name graph root = .ok program)
    (words : ∀ node ∈ root :: graph.nodes, Source.IsWord node.functionName) :
    ∃ order blocks, graph.evaluationOrder root = .ok order ∧ List.Forall₂ (Prints options graph) order blocks ∧
      Source.body program.text = blocks.flatten ++
        ["    out = " ++ (root.outputVariable root.defaultOutput.name).text ++ ";", "\x7d"] := by
  obtain ⟨order, blocks, evaluates, computes, body, _⟩ := emit_blocks emits
  -- The nodes that are called are those of the order, which are the root or in the graph, and none of their functions
  -- has a line feed in its name.
  have named : ∀ call ∈ program.calls, feeds call.function = 0 := by
    obtain ⟨order', evaluates', serves⟩ := emit_calls emits
    intro call made
    obtain ⟨node, listed, serves⟩ := exists_of_forall₂ serves made
    rw [serves.function]
    refine (words node ?_).feeds
    rcases Graph.mem_of_evaluationOrder evaluates' listed with inside | rfl
    · exact List.mem_cons_of_mem _ inside
    · exact List.mem_cons_self
  refine ⟨order, blocks.map fun block => block.lines.map Statement.line, evaluates, ?_, ?_⟩
  · rw [List.forall₂_map_right_iff]
    exact computes.imp fun _ _ one => one.prints
  · rw [Program.body_text named, body, List.map_append, List.append_assoc, List.map_flatMap, List.flatMap_def]
    rfl

end Shader

end ShadeBake
