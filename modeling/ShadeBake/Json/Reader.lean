import ShadeBake.Json.Numeral
import ShadeBake.Json.Tree

/-! Reading JSON text. -/

namespace ShadeBake

namespace Json

/-- The four characters that may stand between the parts of a JSON text. -/
def isSpace (c : Char) : Bool :=
  c = ' ' || c = '\t' || c = '\n' || c = '\r'

/-- The text from its first character that is no space. -/
def skipSpace (text : List Char) : List Char :=
  text.dropWhile isSpace

/-- The value of a hexadecimal digit. -/
def hexDigit? (c : Char) : Option Nat :=
  if '0' ≤ c && c ≤ '9' then some (c.toNat - '0'.toNat)
  else if 'a' ≤ c && c ≤ 'f' then some (c.toNat - 'a'.toNat + 10)
  else if 'A' ≤ c && c ≤ 'F' then some (c.toNat - 'A'.toNat + 10)
  else none

/-- The unit of 16 bits that four hexadecimal digits write. -/
def unit? (a b c d : Char) : Option Nat := do
  return 4096 * (← hexDigit? a) + 256 * (← hexDigit? b) + 16 * (← hexDigit? c) + (← hexDigit? d)

/-- The character that a letter after a backslash stands for. -/
def escaped? : Char → Option Char
  | '"' => some '"'
  | '\\' => some '\\'
  | '/' => some '/'
  | 'b' => some '\x08'
  | 'f' => some '\x0c'
  | 'n' => some '\n'
  | 'r' => some '\r'
  | 't' => some '\t'
  | _ => none

/-- A unit of 16 bits is the first half of a surrogate pair. -/
def isLeading (unit : Nat) : Bool :=
  0xD800 ≤ unit && unit < 0xDC00

/-- A unit of 16 bits is the second half of a surrogate pair. -/
def isTrailing (unit : Nat) : Bool :=
  0xDC00 ≤ unit && unit < 0xE000

/-- A character appended to the ones read so far, in reverse; none once a half surrogate was met. -/
def push (read : Option (List Char)) (c : Char) : Option (List Char) :=
  read.map (c :: ·)

/-- The string that runs up to the closing quote, and the text after it. -/
def readString (read : Option (List Char)) : List Char → Option (Option String × List Char)
  | '"' :: rest => some (read.map fun chars => String.ofList chars.reverse, rest)
  | '\\' :: 'u' :: a :: b :: c :: d :: '\\' :: 'u' :: e :: f :: g :: h :: rest => do
    let first ← unit? a b c d
    if isLeading first then
      let second ← unit? e f g h
      if isTrailing second then
        readString (push read (.ofNat (0x10000 + 1024 * (first - 0xD800) + (second - 0xDC00)))) rest
      else
        -- The first half stays alone, whatever the second unit is.
        readString none rest
    else if isTrailing first then readString none ('\\' :: 'u' :: e :: f :: g :: h :: rest)
    else readString (push read (.ofNat first)) ('\\' :: 'u' :: e :: f :: g :: h :: rest)
  | '\\' :: 'u' :: a :: b :: c :: d :: rest => do
    let unit ← unit? a b c d
    if isLeading unit || isTrailing unit then readString none rest
    else readString (push read (.ofNat unit)) rest
  | '\\' :: c :: rest =>
    match escaped? c with
    | some e => readString (push read e) rest
    | none => none
  | c :: rest =>
    if c.toNat < 0x20 || c = '\\' then none else readString (push read c) rest
  | [] => none
  termination_by text => text.length

mutual

/-- The value that begins a text, and the text after it. The fuel bounds the number of values still to be
read, and a text holds no more values than characters. -/
def readValue (fuel : Nat) (text : List Char) : Option (Tree × List Char) :=
  match fuel with
  | 0 => none
  | fuel + 1 =>
    match skipSpace text with
    | 'n' :: 'u' :: 'l' :: 'l' :: rest => some (.null, rest)
    | 't' :: 'r' :: 'u' :: 'e' :: rest => some (.bool true, rest)
    | 'f' :: 'a' :: 'l' :: 's' :: 'e' :: rest => some (.bool false, rest)
    | '"' :: rest => (readString (some []) rest).map fun (s, rest) => (.string s, rest)
    | '[' :: rest =>
      -- An array may be empty, but no item may be missing in one.
      match skipSpace rest with
      | ']' :: rest => some (.array [], rest)
      | rest => (readItems fuel [] rest).map fun (items, rest) => (.array items, rest)
    | '\x7b' :: rest =>
      match skipSpace rest with
      | '\x7d' :: rest => some (.object [], rest)
      | rest => (readMembers fuel [] rest).map fun (members, rest) => (.object members, rest)
    | text => (Numeral.read text).map fun (n, rest) => (.number n, rest)

/-- The items of an array up to its closing bracket, after those already read, in reverse. -/
def readItems (fuel : Nat) (read : List Tree) (text : List Char) : Option (List Tree × List Char) :=
  match fuel with
  | 0 => none
  | fuel + 1 =>
    match readValue fuel text with
    | none => none
    | some (item, rest) =>
      match skipSpace rest with
      | ',' :: rest => readItems fuel (item :: read) rest
      | ']' :: rest => some ((item :: read).reverse, rest)
      | _ => none

/-- The members of an object up to its closing brace, after those already read, in reverse. -/
def readMembers (fuel : Nat) (read : List (Option String × Tree)) (text : List Char) :
    Option (List (Option String × Tree) × List Char) :=
  match fuel with
  | 0 => none
  | fuel + 1 =>
    match skipSpace text with
    | '"' :: rest =>
      match readString (some []) rest with
      | none => none
      | some (key, rest) =>
        match skipSpace rest with
        | ':' :: rest =>
          match readValue fuel rest with
          | none => none
          | some (item, rest) =>
            match skipSpace rest with
            | ',' :: rest => readMembers fuel ((key, item) :: read) rest
            | '\x7d' :: rest => some (((key, item) :: read).reverse, rest)
            | _ => none
        | _ => none
    | _ => none

end

/-- The one value that a text writes, with nothing but space around it. -/
def Tree.ofText? (text : String) : Option Tree :=
  match readValue (2 * text.length + 2) text.toList with
  | some (tree, rest) => if skipSpace rest = [] then some tree else none
  | none => none

/-- Containers are nested at most this deep in a text that is read. -/
def depthLimit : Nat := 127

/-- The value of a text all of whose parts have a value. -/
def ofText? (text : String) : Option Json := do
  (← Tree.ofText? text).value? depthLimit

end Json

end ShadeBake
