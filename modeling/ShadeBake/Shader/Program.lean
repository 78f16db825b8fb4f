import ShadeBake.Shader.Constant

/-! Shader programs as trees, and their source text. -/

namespace ShadeBake

/-- The variable that holds an output of a node. -/
structure Variable where
  node : String
  output : String
  deriving DecidableEq, Repr

/-- An argument of a call: a variable, a constant, the zero of a type, the surface coordinates, or
coordinates whose second part is turned around. -/
inductive Argument where
  | read (v : Variable)
  | constant (c : Constant)
  | zero (type : ShaderType)
  | coordinates
  | flipped (source : Argument)
  deriving DecidableEq, Repr

/-- A statement: a variable starts as the zero of its type, a function computes the outputs of a node, or
the shader's result is set. -/
inductive Statement where
  | declare (type : ShaderType) (v : Variable)
  | call (function : String) (arguments : List Argument) (results : List Variable)
  | result (v : Variable)
  deriving DecidableEq, Repr

/-- A shader that computes one node of a graph. -/
structure Program where
  name : String
  node : String
  graph : String
  category : String
  searchPaths : List String
  type : ShaderType
  body : List Statement
  deriving DecidableEq, Repr

namespace Variable

/-- A name as a part of a variable: other characters than letters and digits become underscores, and one is
put before a digit. -/
def part (name : List Char) : List Char :=
  let chars := name.map fun c => if c.isAlphanum then c else '_'
  -- An empty name stays empty, as the underscore between two parts follows it anyway.
  match chars with
  | [] => []
  | c :: _ => if c.isDigit then '_' :: chars else chars

/-- The text of a variable. -/
def text (v : Variable) : String :=
  String.ofList (part v.node.toList ++ '_' :: part v.output.toList)

end Variable

namespace Argument

/-- The text of an argument. -/
def text : Argument → String
  | .read v => v.text
  | .constant c => c.text
  | .zero type => type.zero
  | .coordinates => "vector2(u, v)"
  | .flipped source =>
    "vector2((" ++ source.text ++ ").x, 1.0 - (" ++ source.text ++ ").y)"

end Argument

namespace Statement

/-- The line of a statement. -/
def text : Statement → String
  | .declare type v => "    " ++ type.name ++ " " ++ v.text ++ " = " ++ type.zero ++ ";\n"
  | .call function arguments results =>
    -- Results are passed behind the arguments.
    "    mx_" ++ function ++ "("
      ++ ", ".intercalate (arguments.map Argument.text ++ results.map Variable.text) ++ ");\n"
  | .result v => "    " ++ defaultOutputName ++ " = " ++ v.text ++ ";\n"

end Statement

namespace Program

/-- The source text of a program. -/
def text (program : Program) : String :=
  "// MaterialX node '" ++ program.node ++ "' from graph '" ++ program.graph ++ "'\n"
    ++ String.join (program.searchPaths.map fun path => "// search path: " ++ path ++ "\n")
    ++ "#include \"mx_funcs.h\"\n\n"
    ++ "shader " ++ program.name ++ "\n"
    ++ "[[ string mtlx_category = " ++ Quoted.literal program.category
    ++ ", string mtlx_name = " ++ Quoted.literal program.node ++ " ]]\n"
    ++ "(\n    output " ++ program.type.name ++ " " ++ defaultOutputName ++ " = " ++ program.type.zero
    ++ "\n)\n\x7b\n"
    ++ String.join (program.body.map Statement.text)
    ++ "\x7d\n"

end Program

end ShadeBake
