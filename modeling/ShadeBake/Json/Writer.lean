import ShadeBake.Binary.Written
import ShadeBake.Json.Basic

/-! Writing JSON text, on one line or indented. -/

namespace ShadeBake

namespace Json

/-- The text of a number. -/
def numberText : Number → String
  | .integer n => if n < 0 then "-" ++ String.ofList (Decimal.digitsOf n.natAbs)
    else String.ofList (Decimal.digitsOf n.natAbs)
  | .real x => String.ofList (x.text .double .json)

/-- A hexadecimal digit. -/
def hexDigit (n : Nat) : Char :=
  if n < 10 then .ofNat ('0'.toNat + n) else .ofNat ('a'.toNat + n - 10)

/-- A character as it stands in a string: only quotes, backslashes and control characters are escaped. -/
def escape (c : Char) : List Char :=
  if c = '"' then ['\\', '"']
  else if c = '\\' then ['\\', '\\']
  else if c = '\x08' then ['\\', 'b']
  else if c = '\x0c' then ['\\', 'f']
  else if c = '\n' then ['\\', 'n']
  else if c = '\r' then ['\\', 'r']
  else if c = '\t' then ['\\', 't']
  else if c.toNat < 0x20 then ['\\', 'u', '0', '0', hexDigit (c.toNat / 16), hexDigit (c.toNat % 16)]
  else [c]

/-- A string between quotes. -/
def quoted (s : String) : String :=
  "\"" ++ String.ofList (s.toList.flatMap escape) ++ "\""

mutual

/-- The text of a value on one line. -/
def compact : Json → String
  | .null => "null"
  | .bool true => "true"
  | .bool false => "false"
  | .number n => numberText n
  | .string s => quoted s
  | .array items => "[" ++ String.intercalate "," (compactItems items) ++ "]"
  | .object members => "\x7b" ++ String.intercalate "," (compactMembers members) ++ "\x7d"

/-- The texts of the items of an array. -/
def compactItems : List Json → List String
  | [] => []
  | item :: items => compact item :: compactItems items

/-- The texts of the members of an object. -/
def compactMembers : List (String × Json) → List String
  | [] => []
  | (name, item) :: rest => (quoted name ++ ":" ++ compact item) :: compactMembers rest

end

/-- Parts on lines of their own, each indented two spaces more than the closing bracket. -/
def block (opening closing : String) (indent : String) (parts : List String) : String :=
  -- Brackets with nothing between them stay on one line.
  if parts = [] then opening ++ closing
  else
    opening ++ "\n" ++ String.intercalate ",\n" (parts.map ((indent ++ "  ") ++ ·))
      ++ "\n" ++ indent ++ closing

mutual

/-- The text of a value over several lines, the first of which is not indented. -/
def pretty (indent : String) : Json → String
  | .array items => block "[" "]" indent (prettyItems (indent ++ "  ") items)
  | .object members => block "\x7b" "\x7d" indent (prettyMembers (indent ++ "  ") members)
  | .null => "null"
  | .bool true => "true"
  | .bool false => "false"
  | .number n => numberText n
  | .string s => quoted s

/-- The texts of the items of an array. -/
def prettyItems (indent : String) : List Json → List String
  | [] => []
  | item :: items => pretty indent item :: prettyItems indent items

/-- The texts of the members of an object. -/
def prettyMembers (indent : String) : List (String × Json) → List String
  | [] => []
  | (name, item) :: rest =>
    (quoted name ++ ": " ++ pretty indent item) :: prettyMembers indent rest

end

end Json

end ShadeBake
