import ShadeBake.Binary.Written
import ShadeBake.Document.Basic
import ShadeBake.Shader.Quoted
import ShadeBake.Shader.Type
import ShadeBake.Text.Printable

/-! Constants of the shading language, and the literals of a document that they express. -/

namespace ShadeBake

/-- A constant expression: a string, a number, an integer, a constructor applied to numbers, or a colour
with its fourth part. -/
inductive Constant where
  | string (s : String)
  | number (x : Binary)
  | integer (n : Int)
  | construct (type : ShaderType) (parts : List Binary)
  | color4 (red green blue alpha : Binary)
  deriving DecidableEq, Repr

namespace Constant

/-- The text of a number. -/
def numberText (x : Binary) : String :=
  String.ofList (x.sourceText .single)

/-- The text of an integer. -/
def integerText (n : Int) : String :=
  String.ofList (Binary.signed (decide (n < 0)) (Decimal.digitsOf n.natAbs))

/-- The texts of numbers, separated by commas. -/
def partsText (parts : List Binary) : String :=
  ", ".intercalate (parts.map numberText)

/-- The text of a constant. -/
def text : Constant → String
  | .string s => Quoted.literal s
  | .number x => numberText x
  | .integer n => integerText n
  | .construct type parts => type.name ++ "(" ++ partsText parts ++ ")"
  | .color4 red green blue alpha =>
    "color4(color(" ++ partsText [red, green, blue] ++ "), " ++ numberText alpha ++ ")"

/-- The constant of a type that expresses a literal, if one does. -/
def ofLiteral? : ShaderType → Literal → Option Constant
  | .string, .string s => some (.string s)
  | .float, .float x => some (.number x)
  | .float, .integer n => some (.number (.ofInt .single n))
  | .int, .integer n => some (.integer n)
  | .int, .boolean b => some (.integer (if b then 1 else 0))
  | .color, .vector [a, b, c] => some (.construct .color [a, b, c])
  | .vector, .vector [a, b, c] => some (.construct .vector [a, b, c])
  -- A single number stands for all components.
  | .color, .float x => some (.construct .color [x])
  | .vector, .float x => some (.construct .vector [x])
  | .vector2, .vector [a, b] => some (.construct .vector2 [a, b])
  | .vector4, .vector [a, b, c, d] => some (.construct .vector4 [a, b, c, d])
  | .color4, .vector [a, b, c, d] => some (.color4 a b c d)
  | _, _ => none

end Constant

namespace Literal

/-- The value type of a literal that none is declared for. -/
def valueType : Literal → String
  | .string _ => "string"
  | .float _ => "float"
  | .integer _ => "integer"
  | .boolean _ => "boolean"
  | .vector xs =>
    -- Lists of any other length pass for vectors of three parts.
    match xs.length with
    | 2 => "vector2"
    | 4 => "vector4"
    | _ => "vector3"

/-- A character of a string as messages show it. -/
def escapeShown (c : Char) : List Char :=
  if c = '"' then ['\\', '"']
  else if c = '\\' then ['\\', '\\']
  else if c = '\n' then ['\\', 'n']
  else if c = '\t' then ['\\', 't']
  else if c = '\r' then ['\\', 'r']
  else if c = '\x00' then ['\\', '0']
  else if Text.isPrintable c then [c]
  else ['\\', 'u', '\x7b'] ++ Nat.toDigits 16 c.toNat ++ ['\x7d']

/-- A number as messages show it. -/
def showNumber (x : Binary) : String :=
  String.ofList (x.text .single .message)

/-- A literal as messages show it. -/
def shown : Literal → String
  -- The text is what an error shows, with the escapes of a debug form.
  | .string s => "String(\"" ++ String.ofList (s.toList.flatMap escapeShown) ++ "\")"
  | .float x => "Float(" ++ showNumber x ++ ")"
  | .integer n => "Integer(" ++ Constant.integerText n ++ ")"
  | .boolean b => "Boolean(" ++ (if b then "true" else "false") ++ ")"
  | .vector xs => "Vector([" ++ ", ".intercalate (xs.map showNumber) ++ "])"

end Literal

end ShadeBake
