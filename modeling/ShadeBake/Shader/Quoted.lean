/-! String literals of the shading language, and strings as messages show them. -/

namespace ShadeBake

namespace Quoted

/-- A character inside a literal: quotes, backslashes and line feeds are escaped. -/
def escape (c : Char) : List Char :=
  if c = '"' then ['\\', '"']
  else if c = '\\' then ['\\', '\\']
  else if c = '\n' then ['\\', 'n']
  else [c]

/-- The literal that denotes a text. -/
def encode (text : List Char) : List Char :=
  '"' :: (text.flatMap escape ++ ['"'])

/-- The literal that denotes a string. -/
def literal (s : String) : String :=
  String.ofList (encode s.toList)

end Quoted

end ShadeBake
