import ShadeBake.Json.Basic

/-! JSON text as it was written: members in order and repeated, and strings and numbers that name no value.

A record reads only the members it knows. So what an unknown member holds need not have a value, as long as
it is well formed. -/

namespace ShadeBake

namespace Json

/-- The written form of a value. A number too large for any value and a string with half a surrogate pair
are well formed, but have no value. -/
inductive Tree where
  | null
  | bool (b : Bool)
  | number (n : Option Number)
  | string (s : Option String)
  | array (items : List Tree)
  | object (members : List (Option String × Tree))
  deriving Inhabited

namespace Tree

mutual

/-- The value of a written form, if all of it has one and containers are nested no deeper than there is
room. Of members with one name the last counts, and members are sorted by name. -/
def value? : Nat → Tree → Option Json
  | _, .null => some .null
  | _, .bool b => some (.bool b)
  | _, .number n => n.map .number
  | _, .string s => s.map .string
  -- A container needs room for what it holds, even if that is nothing.
  | 0, .array _ => none
  | room + 1, .array items => (values? room items).map .array
  | 0, .object _ => none
  | room + 1, .object members =>
    (members? room members).map fun entries => ofDict (Dict.ofList entries)

/-- The values of the items of an array. -/
def values? : Nat → List Tree → Option (List Json)
  | _, [] => some []
  | room, item :: items => do
    let first ← value? room item
    let others ← values? room items
    return first :: others

/-- The values of the members of an object. -/
def members? : Nat → List (Option String × Tree) → Option (List (String × Json))
  | _, [] => some []
  | room, (key, item) :: rest => do
    let name ← key
    let first ← value? room item
    let others ← members? room rest
    return (name, first) :: others

end

/-- The one member of a list under a name; the name must not be repeated. -/
def single? (name : String) (members : List (String × Tree)) : Option (Option Tree) :=
  -- A repeated name is at fault even where both members agree.
  match members.filter (·.1 = name) with
  | [] => some none
  | [member] => some (some member.2)
  | _ => none

/-- The names and written values of an object's members, if all names have a value. -/
def named? (members : List (Option String × Tree)) : Option (List (String × Tree)) :=
  members.mapM fun (key, item) => key.map (·, item)

/-- The fields of a record: an object gives them by name, none of them twice, and an array gives the first
of them in order. A field that is not given is none. -/
def fields? (names : List String) : Tree → Option (List (Option Tree))
  | .object members => do
    let named ← named? members
    names.mapM (single? · named)
  | .array items =>
    -- A record may be written as a list of its fields, of which the last may be missing.
    if items.length ≤ names.length then
      some (items.map some ++ List.replicate (names.length - items.length) none)
    else none
  | _ => none

/-- The string that a form writes. -/
def string? : Tree → Option String
  | .string s => s
  | _ => none

/-- A field that must be given. -/
def required {α : Type} (read : Tree → Option α) (field : Option Tree) : Option α :=
  field.bind read

/-- A field with a default for when it is not given. -/
def defaulted {α : Type} (read : Tree → Option α) (default : α) : Option Tree → Option α
  | none => some default
  | some tree => read tree

/-- A value that may be null. -/
def nullable {α : Type} (read : Tree → Option α) : Tree → Option (Option α)
  | .null => some none
  | tree => (read tree).map some

/-- An array whose items are all read alike. -/
def list? {α : Type} (read : Tree → Option α) : Tree → Option (List α)
  | .array items => items.mapM read
  | _ => none

/-- An object whose members are all read alike; of members with one name the last counts. -/
def dict? {α : Type} (read : Tree → Option α) : Tree → Option (Dict α)
  | .object members => do
    let named ← named? members
    -- Of two entries with one name the later one counts.
    let entries ← named.mapM fun (name, item) => (read item).map (name, ·)
    return Dict.ofList entries
  | _ => none

/-- A container, which takes up one of the levels there is room for. -/
def nested {α : Type} (read : Nat → Tree → Option α) : Nat → Tree → Option α
  | 0, _ => none
  | room + 1, tree => read room tree

end Tree

mutual

/-- The written form of a value. -/
def toTree : Json → Tree
  | .null => .null
  | .bool b => .bool b
  | .number n => .number (some n)
  | .string s => .string (some s)
  | .array items => .array (toTrees items)
  | .object members => .object (toMembers members)

/-- The written forms of the items of an array. -/
def toTrees : List Json → List Tree
  | [] => []
  | item :: items => toTree item :: toTrees items

/-- The written forms of the members of an object. -/
def toMembers : List (String × Json) → List (Option String × Tree)
  | [] => []
  | (name, item) :: rest => (some name, toTree item) :: toMembers rest

end

mutual

/-- The number of containers nested in each other. -/
def depth : Json → Nat
  | .array items => depthOfItems items + 1
  | .object members => depthOfMembers members + 1
  | _ => 0

/-- The greatest depth among the items of an array. -/
def depthOfItems : List Json → Nat
  | [] => 0
  | item :: items => max (depth item) (depthOfItems items)

/-- The greatest depth among the members of an object. -/
def depthOfMembers : List (String × Json) → Nat
  | [] => 0
  | (_, item) :: rest => max (depth item) (depthOfMembers rest)

end

end Json

end ShadeBake
