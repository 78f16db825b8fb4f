import ShadeBake.Binary.Basic
import ShadeBake.Dict

/-! JSON values. -/

namespace ShadeBake

/-- A JSON number: an integer of 64 bits, signed or not, or else a floating-point value. -/
inductive Number where
  | integer (n : Int)
  | real (x : Binary)
  deriving DecidableEq, Repr

namespace Number

/-- The number as a signed integer of 64 bits, if it is one. -/
def int? : Number → Option Int
  | .integer n => if n < 0x8000000000000000 then some n else none
  | .real _ => none

/-- The number as a floating-point value. -/
def toBinary : Number → Binary
  | .integer n => .ofInt .double n
  | .real x => x

end Number

/-- A JSON value; the members of an object keep the order in which they are written. -/
inductive Json where
  | null
  | bool (b : Bool)
  | number (n : Number)
  | string (s : String)
  | array (items : List Json)
  | object (members : List (String × Json))
  deriving Inhabited, Repr

namespace Json

/-- The member of an object under a name. -/
def get? : Json → String → Option Json
  | .object members, name => Dict.lookup name members
  | _, _ => none

/-- The text of a value that is a string. -/
def string? : Json → Option String
  | .string s => some s
  | _ => none

/-- An object whose members are the entries of a map. -/
def ofDict (dict : Dict Json) : Json :=
  .object dict.entries

/-- An array of strings. -/
def strings (texts : List String) : Json :=
  .array (texts.map .string)

/-- A natural number. -/
def nat (n : Nat) : Json :=
  .number (.integer n)

/-- A string, or null for none. -/
def optional (text : Option String) : Json :=
  match text with
  | some s => .string s
  | none => .null

end Json

end ShadeBake
